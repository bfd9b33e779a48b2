import PageSketch.Decimal.Rounding

/-! # Numbers with a fixed count of decimals

`fixed` writes all decimals, `trimmed` drops those that say nothing. -/

namespace PageSketch.Decimal

/-- `count` decimal digits of `value`, the last ones, with leading zeros. -/
def lastDigits (count value : Nat) : List Char :=
  let digits := (Nat.toDigits 10 value).reverse.take count |>.reverse
  List.replicate (count - digits.length) '0' ++ digits

/-- The text of `units / 10 ^ places` with exactly `places` decimals. -/
def fixedUnits (places units : Nat) : List Char :=
  let unit := Nat.pow 10 places
  Nat.toDigits 10 (units / unit) ++ '.' :: lastDigits places (units % unit)

/-- The text of a magnitude rounded to `places` decimals, halves to even. -/
def fixed (places : Nat) (magnitude : Rat) : List Char :=
  fixedUnits places (Rounding.halfEven (magnitude * Nat.pow 10 places))

/-- Removes the zeros at the end of the decimals, and the point if it is last. -/
def trimDecimals (text : List Char) : List Char :=
  let kept := text.reverse.dropWhile (· = '0')
  (if kept.head? = some '.' then kept.tail else kept).reverse

example : fixed 3 (9 / 2000) = "0.004".toList := by decide +kernel

example : trimDecimals "2.500".toList = "2.5".toList := by decide +kernel

example : trimDecimals "10.000".toList = "10".toList := by decide +kernel

end PageSketch.Decimal
