/-! # Decimal numerals

The written form of a number: an optional sign, digits with an optional point,
and an optional power of ten. The words for infinity and for an undefined
number are numerals too, so that their meaning is left to whoever reads them. -/

namespace PageSketch

/-- A number as written. `decimal negative digits exponent` stands for
`digits * 10 ^ exponent`, with the sign kept apart so that `-0` is not lost. -/
inductive Numeral where
  | decimal (negative : Bool) (digits : Nat) (exponent : Int)
  | infinity (negative : Bool)
  | notANumber
deriving DecidableEq, Repr

/-- The value of a row of decimal digits, read after the digits of `initial`. -/
def digitsValue (initial : Nat) (digits : List Char) : Nat :=
  digits.foldl (fun value digit => 10 * value + (digit.toNat - '0'.toNat)) initial

example : digitsValue 0 ['4', '0', '2'] = 402 := rfl

namespace Numeral

/-- Splits off a leading sign; the flag tells whether it was a minus. -/
def splitSign : List Char → Bool × List Char
  | '-' :: rest => (true, rest)
  | '+' :: rest => (false, rest)
  | text => (false, text)

/-- The power of ten written behind the digits: nothing, or a mark `e` or `E`
with a signed row of at least one digit. -/
def readExponent? : List Char → Option Int
  | [] => some 0
  | mark :: rest =>
      let (negative, digits) := splitSign rest
      if (mark = 'e' ∨ mark = 'E') ∧ digits ≠ [] ∧ digits.all Char.isDigit then
        let magnitude : Int := digitsValue 0 digits
        some (if negative then -magnitude else magnitude)
      else
        none

/-- Digits with an optional point and exponent, without a sign. At least one
digit is needed, on either side of the point. -/
def readUnsigned? (negative : Bool) (text : List Char) : Option Numeral :=
  let whole := text.takeWhile Char.isDigit
  let (fraction, rest) :=
    match text.dropWhile Char.isDigit with
    | '.' :: rest => (rest.takeWhile Char.isDigit, rest.dropWhile Char.isDigit)
    | rest => ([], rest)
  if whole = [] ∧ fraction = [] then
    none
  else
    (readExponent? rest).map fun exponent =>
      .decimal negative (digitsValue (digitsValue 0 whole) fraction)
        (exponent - fraction.length)

/-- Reads a numeral that makes up the whole text. The words are compared
without regard to case. -/
def ofChars? (text : List Char) : Option Numeral :=
  let (negative, body) := splitSign text
  let word := body.map Char.toLower
  if word = "nan".toList then
    some .notANumber
  else if word = "inf".toList ∨ word = "infinity".toList then
    some (.infinity negative)
  else
    readUnsigned? negative body

example : ofChars? "-2.50e1".toList = some (.decimal true 250 (-1)) := by decide +kernel

example : ofChars? ".".toList = none := by decide +kernel

/-- A finite number of the form digits times a power of ten. -/
def IsDecimal : Numeral → Prop
  | .decimal .. => True
  | .infinity _ | .notANumber => False

end Numeral

end PageSketch
