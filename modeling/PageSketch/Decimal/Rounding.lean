/-! # Rounding to whole numbers

Two rules for the nearest integer, which differ only on halves. Both are stated
for magnitudes; a sign is put back by the caller, so both treat a number and its
negation alike. -/

namespace PageSketch.Rounding

/-- The nearest natural number; a half goes up. -/
def halfUp (magnitude : Rat) : Nat :=
  (magnitude + 1 / 2).floor.toNat

/-- The nearest natural number; a half goes to the even neighbour. -/
def halfEven (magnitude : Rat) : Nat :=
  let below := magnitude.floor.toNat
  let excess := magnitude - below
  if excess < 1 / 2 then below
  else if 1 / 2 < excess then below + 1
  else if below % 2 = 0 then below
  else below + 1

example : halfUp (5 / 2) = 3 ∧ halfEven (5 / 2) = 2 ∧ halfEven (7 / 2) = 4 := by decide +kernel

end PageSketch.Rounding
