import Mathlib.Algebra.Order.Ring.Rat
import PageSketch.Scalar.Binary
import PageSketch.Scalar.Exact

/-! # The order of numbers

Numbers that are defined are totally preordered, and nothing is compared with one that
is not. Numbers are equal exactly if each is at most the other. This is what geometry needs
of the order, and it holds of rational numbers and of binary floating point numbers alike. -/

namespace PageSketch.Scalar

/-- The number stands for something. -/
def IsDefined {α : Type} [Scalar α] (value : α) : Prop := reading value ≠ .undefined

/-- The order compares all numbers that are defined, and no others. -/
class Ordered (α : Type) [Scalar α] : Prop where
  defined_of_le : ∀ {a b : α}, a ≤ b → IsDefined a ∧ IsDefined b
  le_trans : ∀ {a b c : α}, a ≤ b → b ≤ c → a ≤ c
  le_total : ∀ {a b : α}, IsDefined a → IsDefined b → a ≤ b ∨ b ≤ a
  lt_iff : ∀ {a b : α}, a < b ↔ a ≤ b ∧ ¬b ≤ a

/-- Two numbers are equal exactly if each is at most the other. -/
class Equality (α : Type) [Scalar α] : Prop where
  beq_iff : ∀ {a b : α}, (a == b) = true ↔ a ≤ b ∧ b ≤ a

instance : Ordered Rat where
  defined_of_le _ := ⟨nofun, nofun⟩
  le_trans := Rat.le_trans
  le_total _ _ := Rat.le_total
  lt_iff := lt_iff_le_not_ge

instance : Equality Rat where
  beq_iff := beq_iff_eq.trans le_antisymm_iff

/-! ## Binary numbers -/

namespace Binary

open Float.Model

/-- The place of a number among all that are defined: its sign with infinity apart, its
exponent and its mantissa, in this order of weight. -/
def rank? : UnpackedFloat → Option (Int × Int × Int)
  | .notANumber => none
  | .infinity .negative => some (-2, 0, 0)
  | .finite .negative mantissa exponent _ => some (-1, -exponent, -mantissa)
  | .zero _ => some (0, 0, 0)
  | .finite .positive mantissa exponent _ => some (1, exponent, mantissa)
  | .infinity .positive => some (2, 0, 0)

/-- The order of ranks. -/
def RankLE (a b : Int × Int × Int) : Prop :=
  a.1 < b.1 ∨ a.1 = b.1 ∧ (a.2.1 < b.2.1 ∨ a.2.1 = b.2.1 ∧ a.2.2 ≤ b.2.2)

theorem RankLE.trans {a b c : Int × Int × Int} (first : RankLE a b) (second : RankLE b c) :
    RankLE a c := by
  unfold RankLE at *
  omega

theorem RankLE.total (a b : Int × Int × Int) : RankLE a b ∨ RankLE b a := by
  unfold RankLE
  omega

theorem isLE_compare_then {e₁ e₂ : Int} {m₁ m₂ : Nat} :
    ((compare e₁ e₂).then (compare m₁ m₂)).isLE = true ↔ e₁ < e₂ ∨ e₁ = e₂ ∧ m₁ ≤ m₂ := by
  rw [Ordering.isLE_then_iff_or, Int.compare_eq_lt, Int.compare_eq_eq, Nat.isLE_compare]

theorem swap_compare_then {e₁ e₂ : Int} {m₁ m₂ : Nat} :
    ((compare e₁ e₂).then (compare m₁ m₂)).swap = (compare e₂ e₁).then (compare m₂ m₁) := by
  rw [Ordering.swap_then, Int.compare_swap, Nat.compare_swap]

theorem compare_swap (a b : UnpackedFloat) : b.compare a = (a.compare b).map Ordering.swap := by
  rcases a with (_ | _) | _ | _ | ⟨_ | _, m₁, e₁, _⟩ <;>
    rcases b with (_ | _) | _ | _ | ⟨_ | _, m₂, e₂, _⟩ <;>
    dsimp only [UnpackedFloat.compare] <;> simp [swap_compare_then] <;> rfl

/-- Numbers compare as their ranks do. -/
theorem le_iff_rank (a b : UnpackedFloat) :
    a.le b = true ↔ ∃ low high, rank? a = some low ∧ rank? b = some high ∧ RankLE low high := by
  rcases a with (_ | _) | _ | _ | ⟨_ | _, m₁, e₁, _⟩ <;>
    rcases b with (_ | _) | _ | _ | ⟨_ | _, m₂, e₂, _⟩ <;>
    dsimp only [UnpackedFloat.le, UnpackedFloat.compare, rank?] <;>
    simp [RankLE, swap_compare_then, isLE_compare_then]
  -- Infinities compare by their signs alone, and negative numbers compare in reverse.
  case infinity.negative.infinity.negative => rfl
  case infinity.negative.infinity.positive => rfl
  case infinity.positive.infinity.negative => rfl
  case infinity.positive.infinity.positive => rfl
  case finite.negative.finite.negative => rw [eq_comm]

theorem lt_iff_le (a b : UnpackedFloat) : a.lt b = true ↔ a.le b = true ∧ ¬b.le a = true := by
  rw [UnpackedFloat.lt, UnpackedFloat.le, UnpackedFloat.le, compare_swap a b]
  cases a.compare b with
  | none => simp
  | some order => cases order <;> simp

theorem beq_iff_le (a b : UnpackedFloat) : a.beq b = true ↔ a.le b = true ∧ b.le a = true := by
  change (a.compare b == some .eq) = true ↔ _
  rw [UnpackedFloat.le, UnpackedFloat.le, compare_swap a b]
  cases a.compare b with
  | none => simp
  | some order => cases order <;> simp

/-- A number is defined exactly if it has a rank. -/
theorem isDefined_iff_rank {value : Float} :
    IsDefined value ↔ ∃ rank, rank? value.toModel.unpack = some rank := by
  change reading value ≠ .undefined ↔ _
  rw [reading]
  rcases value.toModel.unpack with (_ | _) | _ | _ | ⟨_ | _, _, _, _⟩ <;>
    dsimp only [rank?] <;> simp

theorem float_le_iff {a b : Float} : a ≤ b ↔ a.toModel.unpack.le b.toModel.unpack = true := by
  change a.le b = true ↔ _
  simp only [Float.le, decide_eq_true_eq]
  rfl

theorem float_lt_iff {a b : Float} : a < b ↔ a.toModel.unpack.lt b.toModel.unpack = true := by
  change a.lt b = true ↔ _
  simp only [Float.lt, decide_eq_true_eq]
  rfl

theorem float_beq_iff {a b : Float} :
    (a == b) = true ↔ a.toModel.unpack.beq b.toModel.unpack = true := Iff.rfl

instance : Ordered Float where
  defined_of_le {a b} before := by
    rcases (le_iff_rank _ _).mp (float_le_iff.mp before) with ⟨low, high, first, second, _⟩
    exact ⟨isDefined_iff_rank.mpr ⟨low, first⟩, isDefined_iff_rank.mpr ⟨high, second⟩⟩
  le_trans {a b c} first second := by
    rcases (le_iff_rank _ _).mp (float_le_iff.mp first) with ⟨low, middle, lowest, here, below⟩
    rcases (le_iff_rank _ _).mp (float_le_iff.mp second) with ⟨other, high, same, highest, above⟩
    have equal : other = middle := Option.some.inj (same.symm.trans here)
    exact float_le_iff.mpr ((le_iff_rank _ _).mpr
      ⟨low, high, lowest, highest, below.trans (equal ▸ above)⟩)
  le_total {a b} definedA definedB := by
    rcases isDefined_iff_rank.mp definedA with ⟨first, rankA⟩
    rcases isDefined_iff_rank.mp definedB with ⟨second, rankB⟩
    rw [float_le_iff, float_le_iff, le_iff_rank, le_iff_rank]
    rcases RankLE.total first second with before | after
    · exact .inl ⟨first, second, rankA, rankB, before⟩
    · exact .inr ⟨second, first, rankB, rankA, after⟩
  lt_iff {a b} := by
    rw [float_lt_iff, float_le_iff, float_le_iff]
    exact lt_iff_le _ _

/-- Zeros are equal whatever their signs are. -/
instance : Equality Float where
  beq_iff {a b} := by
    rw [float_beq_iff, float_le_iff, float_le_iff]
    exact beq_iff_le _ _

end Binary

end PageSketch.Scalar
