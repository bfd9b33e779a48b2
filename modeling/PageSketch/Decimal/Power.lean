/-! # Powers

Powers of positive whole numbers, also with negative exponents. -/

namespace PageSketch

/-- The power of `base`, a fraction if the exponent is negative. -/
def power (base : Nat) (exponent : Int) : Rat :=
  let magnitude := Nat.pow base exponent.natAbs
  if exponent < 0 then mkRat 1 magnitude else magnitude

example : power 10 2 = 100 ∧ power 2 (-3) = 1 / 8 := by decide +kernel

end PageSketch
