import PageSketch.Failure
import PageSketch.Geometry.Unit

/-! # Lengths as text

A length is written as a number and a unit, as in `2.5cm` or `-3 mm`. A zero
needs no unit. Reading splits off the letters at the end as the unit; writing
gives at most three decimals. -/

namespace PageSketch

inductive LengthProblem where
  | notANumber (text number : String)
  | outOfRange (text : String)
  | missingUnit (text : String)
  | unknownUnit (unit : String)
  | manyUnits (units : List String)
deriving DecidableEq, Repr

namespace LengthProblem

def toCause : LengthProblem → Cause
  | .notANumber text number =>
      .badConfig
        ("invalid length " ++ Text.quoted text ++ ": cannot parse " ++ Text.quoted number)
  | .outOfRange text => .badConfig ("invalid length " ++ Text.quoted text ++ ": out of range")
  | .missingUnit text => .invalidUnit (text ++ " (missing unit)")
  | .unknownUnit unit => .invalidUnit unit
  | .manyUnits units =>
      .badConfig ("length must use exactly one unit, got " ++ Text.quotedList units)

def toFailure (problem : LengthProblem) : Failure := .cause problem.toCause

end LengthProblem

namespace LengthUnit

def read (text : String) : Except LengthProblem LengthUnit :=
  match ofText? text with
  | some unit => .ok unit
  | none => .error (.unknownUnit text)

/-- The length in this unit, with at most three decimals. What rounds to zero
is written without a unit. -/
def format {α : Type} [Scalar α] (unit : LengthUnit) (length : Length α) : String :=
  if length.isZero then
    "0"
  else
    let number := Scalar.text 3 (length.inUnit unit)
    if number = "0" ∨ number = "-0" then "0" else number ++ unit.name

end LengthUnit

structure LengthFormat (α : Type) where
  unit : LengthUnit
  /-- Lengths are first rounded to a multiple of this one, if there is one. -/
  nearest : Option (Length α) := none

namespace LengthFormat

variable {α : Type} [Scalar α]

def round (format : LengthFormat α) (length : Length α) : Length α :=
  match format.nearest with
  | some nearest => length.round nearest
  | none => length

def value (format : LengthFormat α) (length : Length α) : α :=
  (format.round length).inUnit format.unit

def text (format : LengthFormat α) (length : Length α) : String :=
  format.unit.format (format.round length)

end LengthFormat

namespace Length

variable {α : Type} [Scalar α]

/-- The length in points, as messages show it. -/
def display (length : Length α) : String := LengthUnit.pt.format length

def isUnitLetter (character : Char) : Bool := character.isAlpha

def ofNumeral? (unit : LengthUnit) : Numeral → Option (Length α)
  | .decimal negative digits exponent =>
      let length : Length α := unit.size.scale (Scalar.ofDecimal negative digits exponent)
      if length.isFinite then some length else none
  | .infinity _ | .notANumber => none

/-- Whether a numeral stands for zero, or for a number too small to be told from it. -/
def isZeroNumeral (α : Type) [Scalar α] : Numeral → Bool
  | .decimal negative digits exponent =>
      (Scalar.ofDecimal negative digits exponent : α) == Scalar.zero
  | .infinity _ | .notANumber => false

/-- Reads a length from a text without blanks around it. -/
def readTrimmed (text : List Char) : Except LengthProblem (Length α) :=
  let number := Text.trim (Text.dropEndWhile isUnitLetter text)
  let word := Text.takeEndWhile isUnitLetter text
  match Numeral.ofChars? number with
  | none => .error (.notANumber (String.ofList text) (String.ofList number))
  | some numeral =>
      if word.isEmpty then
        if isZeroNumeral α numeral then .ok zero
        else .error (.missingUnit (String.ofList text))
      else
        match LengthUnit.ofWord? word with
        | none => .error (.unknownUnit (String.ofList word))
        | some unit =>
            match ofNumeral? unit numeral with
            | some length => .ok length
            | none => .error (.outOfRange (String.ofList text))

def read (text : String) : Except LengthProblem (Length α) :=
  readTrimmed (Text.trim text.toList)

end Length

end PageSketch
