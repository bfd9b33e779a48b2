import PageSketch.Geometry.Length
import PageSketch.Text.Blank

/-! # Units of length -/

namespace PageSketch

inductive LengthUnit where
  | pt
  | mm
  | cm
  | inch
deriving DecidableEq, Repr

namespace LengthUnit

/-- All units, sorted by name. -/
def all : List LengthUnit := [.cm, .inch, .mm, .pt]

def name : LengthUnit → String
  | .pt => "pt"
  | .mm => "mm"
  | .cm => "cm"
  | .inch => "in"

def size {α : Type} [Scalar α] : LengthUnit → Length α
  | .pt => .point
  | .mm => .millimeter
  | .cm => .centimeter
  | .inch => .inch

/-- The unit with the given name, in any mixture of upper and lower case. -/
def ofWord? (word : List Char) : Option LengthUnit :=
  match String.ofList (word.map Char.toLower) with
  | "pt" => some .pt
  | "mm" => some .mm
  | "cm" => some .cm
  | "in" => some .inch
  | "inch" => some .inch
  | _ => none

def ofText? (text : String) : Option LengthUnit :=
  ofWord? (Text.trim text.toList)

example : ofText? " Inch" = some .inch := by decide +kernel

end LengthUnit

def Length.inUnit {α : Type} [Scalar α] (length : Length α) (unit : LengthUnit) : α :=
  length.ratio unit.size

end PageSketch
