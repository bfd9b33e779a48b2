import PageSketch.Proofs.RectOrder

/-! # The range of coordinates

If there is a largest number, then all finite numbers lie between it and its opposite.
Finite rectangles then meet the rectangle with these coordinates. -/

namespace PageSketch.Scalar

/-- Finite numbers lie between the largest one and its opposite, if there is a largest one. -/
class Ranged (α : Type) [Scalar α] : Prop where
  within : ∀ {largest value : α}, largest? = some largest → isFinite value = true →
    -largest ≤ value ∧ value ≤ largest

instance : Ranged Rat where
  within none _ := nomatch none

/-! ## Binary numbers -/

namespace Binary

open Float.Model

/-- The first bit of a mantissa is not stored. -/
theorem toNat_hidden_append (bits : BitVec 52) : (1#1 ++ bits).toNat = 2 ^ 52 + bits.toNat := by
  rw [BitVec.toNat_append, ← Nat.shiftLeft_add_eq_or_of_lt bits.isLt]
  rfl

/-- Numbers have mantissas of 53 bits, all of which are used unless the exponent is the least
one. Exponents have a limit. -/
theorem unpack_bounds {bits : BitVec 64} {sign : UnpackedFloat.Sign} {mantissa : Nat}
    {exponent : Int} {positive : 0 < mantissa}
    (unpacked : UnpackedFloat.unpack Format.binary64 bits =
      .finite sign mantissa exponent positive) :
    exponent ≤ 971 ∧ mantissa < 2 ^ 53 ∧ -1074 ≤ exponent ∧
      (exponent = -1074 ∨ 2 ^ 52 ≤ mantissa) := by
  have bias : Format.binary64.exponentBias = 1023 := rfl
  delta UnpackedFloat.unpack at unpacked
  dsimp only at unpacked
  by_cases special : @UnpackedFloat.unpackExponent Format.binary64 bits = -1#11
  · rw [if_pos special] at unpacked
    by_cases whole : @UnpackedFloat.unpackMantissa Format.binary64 bits = 0#52
    · rw [if_pos whole] at unpacked
      cases unpacked
    · rw [if_neg whole] at unpacked
      cases unpacked
  · rw [if_neg special] at unpacked
    by_cases least : @UnpackedFloat.unpackExponent Format.binary64 bits = 0#11
    · rw [if_pos least] at unpacked
      by_cases whole : @UnpackedFloat.unpackMantissa Format.binary64 bits = 0#52
      · rw [dif_pos whole] at unpacked
        cases unpacked
      · rw [dif_neg whole] at unpacked
        cases unpacked
        have fraction : (@UnpackedFloat.unpackMantissa Format.binary64 bits).toNat < 2 ^ 52 :=
          BitVec.isLt _
        rw [least, bias, BitVec.toNat_ofNat]
        omega
    · rw [if_neg least] at unpacked
      cases unpacked
      have fraction : (@UnpackedFloat.unpackMantissa Format.binary64 bits).toNat < 2 ^ 52 :=
        BitVec.isLt _
      have stored : (@UnpackedFloat.unpackExponent Format.binary64 bits).toNat < 2 ^ 11 :=
        BitVec.isLt _
      -- The exponent of all ones is that of infinities and undefined numbers.
      have below : (@UnpackedFloat.unpackExponent Format.binary64 bits).toNat ≠ 2047 :=
        fun equal => special (BitVec.eq_of_toNat_eq equal)
      have above : (@UnpackedFloat.unpackExponent Format.binary64 bits).toNat ≠ 0 :=
        fun equal => least (BitVec.eq_of_toNat_eq equal)
      rw [bias, toNat_hidden_append]
      omega

theorem unpack_largest :
    largest.toModel.unpack = .finite .positive (2 ^ 53 - 1) 971 (by decide) := rfl

theorem unpack_neg_largest :
    (-largest).toModel.unpack = .finite .negative (2 ^ 53 - 1) 971 (by decide) := rfl

/-- The ranks of finite numbers lie between those of the largest number and its opposite. -/
theorem exists_rank_of_isFinite {value : Float} (finite : isFinite value = true) :
    ∃ rank, rank? value.toModel.unpack = some rank ∧
      RankLE (-1, -971, -(2 ^ 53 - 1)) rank ∧ RankLE rank (1, 971, 2 ^ 53 - 1) := by
  have read : ∃ negative magnitude, reading value = .finite negative magnitude := by
    cases known : reading value with
    | finite negative magnitude => exact ⟨negative, magnitude, rfl⟩
    | infinite negative => simp [isFinite, Scalar.reading, known] at finite
    | undefined => simp [isFinite, Scalar.reading, known] at finite
  rcases read with ⟨negative, magnitude, read⟩
  rw [reading] at read
  cases unpacked : value.toModel.unpack with
  | notANumber => rw [unpacked] at read; cases read
  | infinity sign => rw [unpacked] at read; cases read
  | zero sign => exact ⟨_, rfl, by simp [RankLE], by simp [RankLE]⟩
  | finite sign mantissa exponent positive =>
      have bounds := unpack_bounds unpacked
      have signs : (-1 : Int) < 1 := by decide
      cases sign with
      | negative =>
          refine ⟨_, rfl, .inr ⟨rfl, ?_⟩, .inl signs⟩
          dsimp only
          omega
      | positive =>
          refine ⟨_, rfl, .inl signs, .inr ⟨rfl, ?_⟩⟩
          dsimp only
          omega

instance : Ranged Float where
  within {bound value} largest finite := by
    cases largest
    rcases exists_rank_of_isFinite finite with ⟨rank, known, above, below⟩
    rw [float_le_iff, float_le_iff, le_iff_rank, le_iff_rank]
    exact ⟨⟨_, rank, congrArg rank? unpack_neg_largest, known, above⟩,
      ⟨rank, _, known, congrArg rank? unpack_largest, below⟩⟩

end Binary

end PageSketch.Scalar

/-! ## Rectangles -/

namespace PageSketch

namespace Length

variable {α : Type} [Scalar α] {a b largest : Length α}

theorem within_largest [Scalar.Ranged α] (known : Scalar.largest? = some largest.points)
    (finite : a.isFinite = true) : -largest ≤ a ∧ a ≤ largest :=
  Scalar.Ranged.within known finite

/-- The lower one of finite lengths comes before the upper end of the plane, and the upper
one after its lower end. -/
theorem between_ends [Scalar.Ordered α] [Scalar.Ranged α]
    (known : Scalar.largest? = some largest.points) (finiteA : a.isFinite = true)
    (finiteB : b.isFinite = true) :
    a.min b ≤ largest.max (-largest) ∧ largest.min (-largest) ≤ a.max b := by
  have withinA := within_largest known finiteA
  have withinB := within_largest known finiteB
  have definedLow := (isDefined_of_le withinA.1).1
  have definedHigh := (isDefined_of_le withinA.2).2
  constructor
  · have below : a.min b ≤ largest := by
      rcases min_eq_or a b with equal | equal
      · rw [equal]
        exact withinA.2
      · rw [equal]
        exact withinB.2
    exact le_trans below (le_max_left definedHigh)
  · have above : -largest ≤ a.max b := by
      rcases max_eq_or a b with equal | equal
      · rw [equal]
        exact withinA.1
      · rw [equal]
        exact withinB.1
    exact le_trans (min_le_right definedHigh definedLow) above

end Length

namespace Rect

variable {α : Type} [Scalar α] {rect plane : Rect α}

/-- All coordinates are finite. -/
def IsFinite (rect : Rect α) : Prop := ∀ side, (rect.side side).isFinite = true

/-- A finite rectangle meets the plane, also if its edges are in the wrong order. -/
theorem meets_plane [Scalar.Ordered α] [Scalar.Ranged α] (known : plane? = some plane)
    (finite : rect.IsFinite) : rect.envelope.Meets plane.envelope := by
  rcases Option.map_eq_some_iff.mp known with ⟨largest, found, rfl⟩
  have found : Scalar.largest? = some (Length.mk largest).points := found
  have across := Length.between_ends found (finite .right) (finite .left)
  have down := Length.between_ends found (finite .bottom) (finite .top)
  exact ⟨across.1, across.2, down.1, down.2⟩

end Rect

end PageSketch
