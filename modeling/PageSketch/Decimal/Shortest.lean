import PageSketch.Decimal.Power

/-! # Shortest decimals

Among the decimals of an interval, those with the fewest digits are looked for, and
of these the one nearest to a given magnitude. It is enough to look at the two
neighbours of the magnitude for each count of digits: if any decimal with so many
digits lies in the interval, one of them does. -/

namespace PageSketch.Decimal

/-- The magnitudes that stand for a number, around its exact value. -/
structure Neighborhood where
  value : Rat
  low : Rat
  high : Rat
  isClosed : Bool

def Neighborhood.contains (around : Neighborhood) (magnitude : Rat) : Bool :=
  if around.isClosed then around.low ≤ magnitude && magnitude ≤ around.high
  else around.low < magnitude && magnitude < around.high

/-- The power of ten that a positive magnitude reaches but not the one above it. -/
def leadingPower (magnitude : Rat) : Int :=
  let guess : Int := (Nat.toDigits 10 magnitude.num.natAbs).length
    - (Nat.toDigits 10 magnitude.den).length
  if power 10 guess ≤ magnitude then guess else guess - 1

/-- The nearest decimal of the neighborhood with so many digits, as its digits and
their power of ten. Of two that are equally near, the one with even digits counts. -/
def nearestWith? (around : Neighborhood) (digits : Nat) : Option (Nat × Int) :=
  let exponent := leadingPower around.value - (digits - 1)
  let unit : Rat := power 10 exponent
  let below := (around.value / unit).floor.toNat
  let distance (digits : Nat) : Rat := (around.value - digits * unit).abs
  match around.contains (below * unit), around.contains ((below + 1 : Nat) * unit) with
  | true, false => some (below, exponent)
  | false, true => some (below + 1, exponent)
  | true, true =>
      let takeBelow := distance below < distance (below + 1)
        || distance below == distance (below + 1) && below % 2 == 0
      some (if takeBelow then below else below + 1, exponent)
  | false, false => none

/-- The shortest decimal of a neighborhood, if there is one with at most `limit` digits. -/
def shortest? (limit : Nat) (around : Neighborhood) : Option (Nat × Int) :=
  (List.range limit).findSome? fun index => nearestWith? around (index + 1)

def dropZeros : (limit : Nat) → Nat × Int → Nat × Int
  | 0, decimal => decimal
  | limit + 1, (digits, exponent) =>
      if digits ≠ 0 ∧ digits % 10 = 0 then dropZeros limit (digits / 10, exponent + 1)
      else (digits, exponent)

/-- How a decimal is written: with a point among or beside its digits if that takes
few zeros, otherwise with a power of ten. -/
def scientific (decimal : Nat × Int) : List Char :=
  let (value, exponent) := decimal
  let digits := Nat.toDigits 10 value
  let zeros (count : Int) : List Char := List.replicate count.toNat '0'
  let point : Int := digits.length + exponent
  if 0 ≤ exponent ∧ point ≤ 16 then
    digits ++ zeros exponent ++ ['.', '0']
  else if 0 < point ∧ point ≤ 16 then
    digits.take point.toNat ++ '.' :: digits.drop point.toNat
  else if -5 < point ∧ point ≤ 0 then
    ['0', '.'] ++ zeros (-point) ++ digits
  else
    let power := 'e' :: (toString (point - 1)).toList
    match digits with
    | first :: second :: rest => first :: '.' :: second :: rest ++ power
    | digits => digits ++ power

example : scientific (125, -2) = "1.25".toList := by decide +kernel

example : scientific (125, -10) = "1.25e-8".toList := by decide +kernel

example : shortest? 17 ⟨1 / 3, 33 / 100, 34 / 100, false⟩ = some (333, -3) := by decide +kernel

end PageSketch.Decimal
