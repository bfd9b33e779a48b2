import PageSketch.Scalar.Basic

/-! # Lengths

Signed distances, measured in points. There are 72 points to an inch. -/

namespace PageSketch

structure Length (α : Type) where
  /-- The distance in points. -/
  points : α
deriving DecidableEq, Repr

namespace Length

variable {α : Type} [Scalar α]

instance : Add (Length α) := ⟨fun a b => ⟨a.points + b.points⟩⟩
instance : Sub (Length α) := ⟨fun a b => ⟨a.points - b.points⟩⟩
instance : Neg (Length α) := ⟨fun a => ⟨-a.points⟩⟩
instance : LT (Length α) := ⟨fun a b => a.points < b.points⟩
instance : LE (Length α) := ⟨fun a b => a.points ≤ b.points⟩
instance : BEq (Length α) := ⟨fun a b => a.points == b.points⟩

instance (a b : Length α) : Decidable (a < b) :=
  inferInstanceAs (Decidable (a.points < b.points))

instance (a b : Length α) : Decidable (a ≤ b) :=
  inferInstanceAs (Decidable (a.points ≤ b.points))

def zero : Length α := ⟨Scalar.zero⟩

instance : Inhabited (Length α) := ⟨zero⟩

def point : Length α := ⟨Scalar.ofNat 1⟩

def inch : Length α := ⟨Scalar.ofNat 72⟩

/-- One centimeter; an inch has 2.54 of them. -/
def centimeter : Length α := ⟨Scalar.ofNat 72 / Scalar.ofDecimal false 254 (-2)⟩

def millimeter : Length α := ⟨Scalar.ofNat 72 / Scalar.ofDecimal false 254 (-1)⟩

/-- The margin of comparisons that name none. -/
def approxMargin : Length α := millimeter

def scale (length : Length α) (factor : α) : Length α := ⟨length.points * factor⟩

def divide (length : Length α) (divisor : α) : Length α := ⟨length.points / divisor⟩

/-- How many times `unit` goes into the length. -/
def ratio (length unit : Length α) : α := length.points / unit.points

def abs (length : Length α) : Length α := ⟨Scalar.abs length.points⟩

def isZero (length : Length α) : Bool := length.points == Scalar.zero

def isFinite (length : Length α) : Bool := Scalar.isFinite length.points

/-- The multiple of `nearest` closest to the length, of two the one farther from
zero. Without a step, that is if `nearest` is zero, nothing is rounded. -/
def round (length nearest : Length α) : Length α :=
  if nearest.isZero then length else nearest.scale (Scalar.round (length.ratio nearest))

/-- The smaller length, the first one if neither is. -/
def min (a b : Length α) : Length α := if b < a then b else a

/-- The larger length, the first one if neither is. -/
def max (a b : Length α) : Length α := if a < b then b else a

def approxEq (a b margin : Length α) : Bool := (a - b).abs ≤ margin

def sum (lengths : List (Length α)) : Length α := lengths.foldl (· + ·) zero

def compare? (a b : Length α) : Option Ordering :=
  if a < b then some .lt
  else if b < a then some .gt
  else if a == b then some .eq
  else none

end Length

end PageSketch
