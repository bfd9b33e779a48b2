import PageSketch.Decimal.Power
import PageSketch.Scalar.Basic

/-! # Rational numbers as coordinates

No operation rounds. The order is total and `==` is equality. -/

namespace PageSketch.Scalar.Exact

def ofDecimal (negative : Bool) (digits : Nat) (exponent : Int) : Rat :=
  let magnitude : Rat := digits * power 10 exponent
  if negative then -magnitude else magnitude

/-- The nearest whole number; a half goes away from zero. -/
def round (value : Rat) : Rat :=
  let magnitude : Rat := Rounding.halfUp value.abs
  if value < 0 then -magnitude else magnitude

instance : Scalar Rat where
  decideLT := inferInstance
  decideLE := inferInstance
  ofNat n := n
  ofDecimal := ofDecimal
  abs := Rat.abs
  round := round
  reading value := .finite (decide (value < 0)) value.abs
  largest? := none

example : round (-5 / 2) = -3 := by decide +kernel

end PageSketch.Scalar.Exact
