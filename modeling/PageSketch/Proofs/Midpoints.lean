import Mathlib.Tactic.Linarith
import PageSketch.Proofs.StoredNumbers

/-! # The middle between two numbers

The middle between two numbers is half their difference added to the first one, where each step
is rounded. It lies between them exactly if they are in order and their difference is finite. -/

namespace PageSketch.Scalar

/-- The middle between two numbers, as far as it can be told. -/
def middle {α : Type} [Scalar α] (a b : α) : α := a + (b - a) / ofNat 2

/-- The middle between finite numbers lies between them if they are in order, unless they are
too far from each other. -/
class Halving (α : Type) [Scalar α] : Prop where
  isDefined_middle : ∀ {a b : α}, isFinite a = true → isFinite b = true → IsDefined (middle a b)
  middle_iff : ∀ {a b : α}, isFinite a = true → isFinite b = true →
    (a ≤ middle a b ∧ middle a b ≤ b ↔ a ≤ b ∧ isFinite (b - a) = true)

instance : Halving Rat where
  isDefined_middle _ _ := nofun
  middle_iff {a b} _ _ := by
    have finite : isFinite (b - a) = true := rfl
    change a ≤ a + (b - a) / 2 ∧ a + (b - a) / 2 ≤ b ↔ _
    constructor
    · rintro ⟨above, below⟩
      exact ⟨Rat.le_trans above below, finite⟩
    · rintro ⟨before, _⟩
      constructor <;> linarith

/-! ## Binary numbers -/

namespace Binary

open Float.Model Float.Model.UnpackedFloat

theorem representable_zero : Representable 0 := ⟨0, 1, by decide, by decide, rfl⟩

theorem representable_two_pow {count : Nat} (counted : 1 ≤ count) : Representable (2 ^ count) :=
  ⟨1, count, by decide, counted, (Nat.one_mul _).symm⟩

theorem Canonical.exists_half {number : UnpackedFloat} (canonical : Canonical number) :
    ∃ half, units number = 2 * half := by
  rcases canonical.representable with ⟨mantissa, count, _, counted, equal⟩
  rcases Nat.exists_eq_add_of_le counted with ⟨rest, rfl⟩
  rw [Nat.pow_add, Nat.mul_left_comm] at equal
  exact ⟨units number / 2, by omega⟩

/-- Rounded half of what is rounded is no more than the whole. -/
theorem between_of_rounds_half {whole half rounded : Int} (nonneg : 0 ≤ whole) (even : 2 ∣ whole)
    (first : Rounds whole (2 * half)) (second : Rounds half rounded) :
    0 ≤ rounded ∧ rounded ≤ whole := by
  have least := (first 0 representable_zero).2 nonneg
  refine ⟨(second 0 representable_zero).2 (by omega), ?_⟩
  rcases nonneg.eq_or_lt with rfl | positive
  · have most := (first 0 representable_zero).1 le_rfl
    exact (second 0 representable_zero).1 (by omega)
  · -- The whole lies between a power of two and the next one.
    rcases Int.eq_ofNat_of_zero_le nonneg with ⟨number, rfl⟩
    have nonzero : number ≠ 0 := by omega
    have below : number < 2 ^ (number.log2 + 1) := Nat.lt_log2_self
    rw [Nat.pow_succ] at below
    have above := Nat.log2_self_le nonzero
    have counted : 1 ≤ number.log2 := (Nat.le_log2 nonzero).mpr (by omega)
    have double := (first (2 ^ (number.log2 + 1) : Nat)
      (representable_two_pow (Nat.le_succ_of_le counted))).1 (by omega)
    have single := (second (2 ^ number.log2 : Nat) (representable_two_pow counted)).1 (by omega)
    omega

/-! ### The steps of a middle -/

variable {a b : Float}

theorem unpack_sub (a b : Float) :
    (b - a).toModel.unpack = (Float.Model.pack
      (UnpackedFloat.sub Format.binary64 b.toModel.unpack a.toModel.unpack)).unpack := rfl

theorem unpack_middle (a b : Float) :
    (middle a b).toModel.unpack = (Float.Model.pack
      (UnpackedFloat.add Format.binary64 a.toModel.unpack (Float.Model.pack
        (UnpackedFloat.div Format.binary64 (b - a).toModel.unpack two)).unpack)).unpack := rfl

/-- If the difference is finite, then half of it is stored as it is, and the sum is rounded. -/
theorem exists_sum (finiteA : isFinite a = true) (finiteB : isFinite b = true)
    (near : isFinite (b - a) = true) :
    ∃ sum half, (middle a b).toModel.unpack = (Float.Model.pack sum).unpack ∧ Canonical sum ∧
      Rounds (units a.toModel.unpack + half) (units sum) ∧
      (units a.toModel.unpack ≤ units b.toModel.unpack →
        0 ≤ half ∧ half ≤ units b.toModel.unpack - units a.toModel.unpack) := by
  have canonicalA := (isFinite_iff_canonical.mp finiteA).1
  have canonicalB := (isFinite_iff_canonical.mp finiteB).1
  rcases rounds_sub canonicalB canonicalA with ⟨canonicalW, roundsW⟩
  have limitedW : Limited 971
      (UnpackedFloat.sub Format.binary64 b.toModel.unpack a.toModel.unpack) := by
    by_contra unlimited
    rcases exists_unpack_pack_infinity canonicalW unlimited with ⟨sign, infinite⟩
    have canonical := (isFinite_iff_canonical.mp near).1
    rw [unpack_sub, infinite] at canonical
    cases canonical
  have width := (unpack_sub a b).trans (unpack_pack canonicalW limitedW)
  generalize UnpackedFloat.sub Format.binary64 b.toModel.unpack a.toModel.unpack = whole at *
  rcases canonicalW.exists_half with ⟨half, double⟩
  rcases rounds_half canonicalW double with ⟨canonicalH, roundsH⟩
  have fewer : (units (UnpackedFloat.div Format.binary64 whole two)).natAbs ≤
      (units whole).natAbs := by
    have nothing := roundsH 0 representable_zero
    have all := roundsH (units whole) canonicalW.representable
    omega
  have stored := unpack_pack canonicalH (limitedW.of_units_le canonicalH canonicalW fewer)
  rcases rounds_add canonicalA canonicalH with ⟨canonicalS, roundsS⟩
  refine ⟨_, _, ?_, canonicalS, roundsS, fun before => ?_⟩
  · rw [unpack_middle, width, stored]
  · have even : 2 ∣ units b.toModel.unpack - units a.toModel.unpack := by
      rcases canonicalA.exists_half with ⟨halfA, doubleA⟩
      rcases canonicalB.exists_half with ⟨halfB, doubleB⟩
      omega
    exact between_of_rounds_half (Int.sub_nonneg.mpr before) even (double ▸ roundsW) roundsH

/-- If the difference is not finite, then neither is the middle. -/
theorem exists_infinity (finiteA : isFinite a = true) (finiteB : isFinite b = true)
    (far : ¬isFinite (b - a) = true) :
    ∃ sign, (middle a b).toModel.unpack = .infinity sign := by
  have canonicalA := (isFinite_iff_canonical.mp finiteA).1
  have canonicalB := (isFinite_iff_canonical.mp finiteB).1
  rcases rounds_sub canonicalB canonicalA with ⟨canonicalW, _⟩
  have unlimited : ¬Limited 971
      (UnpackedFloat.sub Format.binary64 b.toModel.unpack a.toModel.unpack) := by
    intro limited
    refine far (isFinite_iff_canonical.mpr ?_)
    rw [unpack_sub, unpack_pack canonicalW limited]
    exact ⟨canonicalW, limited⟩
  rcases exists_unpack_pack_infinity canonicalW unlimited with ⟨sign, infinite⟩
  refine ⟨sign, ?_⟩
  have stored : (Float.Model.pack (.infinity sign)).unpack = .infinity sign := by
    cases sign <;> rfl
  have halved : UnpackedFloat.div Format.binary64 (.infinity sign) two = .infinity sign := by
    cases sign <;> rfl
  have added : UnpackedFloat.add Format.binary64 a.toModel.unpack (.infinity sign) =
      .infinity sign := by
    generalize a.toModel.unpack = number at canonicalA
    cases canonicalA <;> rfl
  rw [unpack_middle, unpack_sub, infinite, halved, stored, added, stored]

/-- No infinity lies between finite numbers. -/
theorem not_between_infinity {low high : UnpackedFloat} {sign : Sign} (canonicalLow : Canonical low)
    (canonicalHigh : Canonical high) :
    ¬(low.le (.infinity sign) = true ∧ (UnpackedFloat.infinity sign).le high = true) := by
  rintro ⟨above, below⟩
  cases sign with
  | negative => cases canonicalLow <;> cases above
  | positive => cases canonicalHigh <;> cases below

theorem isDefined_of_canonical {value : Float} {number : UnpackedFloat}
    (equal : value.toModel.unpack = (Float.Model.pack number).unpack)
    (canonical : Canonical number) : IsDefined value := by
  rw [isDefined_iff_rank, equal]
  by_cases limited : Limited 971 number
  · rw [unpack_pack canonical limited]
    rcases canonical with _ | @⟨_ | _, _, _, _, _, _, _⟩ <;> exact ⟨_, rfl⟩
  · rcases exists_unpack_pack_infinity canonical limited with ⟨_ | _, infinite⟩ <;>
      rw [infinite] <;> exact ⟨_, rfl⟩

/-- What is rounded to lie between two finite numbers is stored and lies between them. -/
theorem between_of_units {value : Float} {number : UnpackedFloat} (finiteA : isFinite a = true)
    (finiteB : isFinite b = true)
    (equal : value.toModel.unpack = (Float.Model.pack number).unpack)
    (canonical : Canonical number) (above : units a.toModel.unpack ≤ units number)
    (below : units number ≤ units b.toModel.unpack) : a ≤ value ∧ value ≤ b := by
  rcases isFinite_iff_canonical.mp finiteA with ⟨canonicalA, limitedA⟩
  rcases isFinite_iff_canonical.mp finiteB with ⟨canonicalB, limitedB⟩
  have limited : Limited 971 number := by
    rcases Int.le_total 0 (units number) with nonneg | negative
    · exact limitedB.of_units_le canonical canonicalB (by omega)
    · exact limitedA.of_units_le canonical canonicalA (by omega)
  rw [float_le_iff, float_le_iff, equal, unpack_pack canonical limited,
    le_iff_units canonicalA canonical, le_iff_units canonical canonicalB]
  exact ⟨above, below⟩

instance : Halving Float where
  isDefined_middle {a b} finiteA finiteB := by
    by_cases near : isFinite (b - a) = true
    · rcases exists_sum finiteA finiteB near with ⟨sum, half, equal, canonical, _⟩
      exact isDefined_of_canonical equal canonical
    · rcases exists_infinity finiteA finiteB near with ⟨sign, equal⟩
      rw [isDefined_iff_rank, equal]
      cases sign <;> exact ⟨_, rfl⟩
  middle_iff {a b} finiteA finiteB := by
    have canonicalA := (isFinite_iff_canonical.mp finiteA).1
    have canonicalB := (isFinite_iff_canonical.mp finiteB).1
    constructor
    · rintro ⟨above, below⟩
      refine ⟨Ordered.le_trans above below, ?_⟩
      by_contra far
      rcases exists_infinity finiteA finiteB far with ⟨sign, equal⟩
      rw [float_le_iff, equal] at above below
      exact not_between_infinity canonicalA canonicalB ⟨above, below⟩
    · rintro ⟨before, near⟩
      rw [float_le_iff, le_iff_units canonicalA canonicalB] at before
      rcases exists_sum finiteA finiteB near with ⟨sum, half, equal, canonical, rounds, part⟩
      have within := part before
      exact between_of_units finiteA finiteB equal canonical
        ((rounds _ canonicalA.representable).2 (by omega))
        ((rounds _ canonicalB.representable).1 (by omega))

end Binary

end PageSketch.Scalar
