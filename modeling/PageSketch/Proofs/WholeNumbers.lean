import PageSketch.Proofs.CoordinateRange

/-! # Whole numbers as coordinates

Whole numbers of 64 bits are finite coordinates, whatever they are rounded to. For binary
numbers, it is enough to know roughly how large an exponent can get by rounding. -/

namespace PageSketch.Scalar

/-- Whole numbers that fit into 64 bits are finite. -/
class Wholes (α : Type) [Scalar α] : Prop where
  isFinite_ofNat : ∀ {number : Nat}, number < 2 ^ 64 → isFinite (ofNat number : α) = true
  isFinite_ofDecimal : ∀ (negative : Bool) {digits : Nat}, digits < 2 ^ 64 →
    isFinite (ofDecimal negative digits 0 : α) = true

theorem isDefined_of_isFinite {α : Type} [Scalar α] {value : α}
    (finite : isFinite value = true) : IsDefined value := by
  intro undefined
  rw [isFinite, undefined] at finite
  cases finite

instance : Wholes Rat where
  isFinite_ofNat _ := rfl
  isFinite_ofDecimal _ _ _ := rfl

/-! ## Binary numbers -/

namespace Binary

open Float.Model Float.Model.UnpackedFloat

/-- The number is zero, or its exponent has a limit. -/
inductive Limited (limit : Int) : UnpackedFloat → Prop
  | zero {sign : Sign} : Limited limit (.zero sign)
  | finite {sign : Sign} {mantissa : Nat} {exponent : Int} {positive : 0 < mantissa}
      (low : exponent ≤ limit) : Limited limit (.finite sign mantissa exponent positive)

theorem isFinite_of_limited {value : Float} {limit : Int}
    (limited : Limited limit value.toModel.unpack) : isFinite value = true := by
  have known : ∃ negative magnitude, reading value = .finite negative magnitude := by
    rw [reading]
    generalize value.toModel.unpack = number at limited ⊢
    cases limited <;> exact ⟨_, _, rfl⟩
  rcases known with ⟨negative, magnitude, known⟩
  change Scalar.reading value = .finite negative magnitude at known
  rw [isFinite, known]

theorem Limited.mono {number : UnpackedFloat} {low high : Int} (limited : Limited low number)
    (before : low ≤ high) : Limited high number := by
  cases limited with
  | zero => exact .zero
  | finite least => exact .finite (least.trans before)

theorem Limited.neg {number : UnpackedFloat} {limit : Int} (limited : Limited limit number) :
    Limited limit number.neg := by
  cases limited with
  | zero => exact .zero
  | finite low => exact .finite low

/-! ### Rounding -/

theorem mantissa_shiftRight_le (extended : ExtendedMantissa) (count : Nat) :
    (extended >>> count).mantissa ≤ extended.mantissa := by
  change (count.repeat ExtendedMantissa.shiftRightOne extended).mantissa ≤ _
  induction count with
  | zero => exact Nat.le_refl _
  | succ count induction => exact (Nat.div_le_self _ 2).trans induction

theorem roundedMantissa_le (extended : ExtendedMantissa) :
    extended.roundedMantissa ≤ extended.mantissa + 1 := by
  rcases extended with ⟨mantissa, _ | _, _ | _⟩ <;>
    dsimp only [ExtendedMantissa.roundedMantissa, ExtendedMantissa.accuracy,
      Accuracy.roundToNearestEven] <;> omega

theorem targetExponent_le {mantissa size : Nat} {exponent limit : Int}
    (small : mantissa < 2 ^ size) (low : exponent ≤ limit) (nonneg : 0 ≤ limit) :
    Format.binary64.targetExponent (totalExponent mantissa exponent) ≤ limit + size := by
  have equal : Format.binary64.targetExponent (totalExponent mantissa exponent) =
      max (mantissa.log2 + 1 + exponent - 53) (-1074) := rfl
  have short : mantissa.log2 ≤ size := by
    by_cases zero : mantissa = 0
    · rw [zero, Nat.log2_zero]
      exact Nat.zero_le size
    · exact ((Nat.log2_lt zero).mpr small).le
  omega

/-- Bringing a mantissa to the right size adds no more to the exponent than it has bits. -/
theorem shiftToTargetExponent_le {mantissa size : Nat} {exponent limit : Int}
    (small : mantissa < 2 ^ size) (low : exponent ≤ limit) (nonneg : 0 ≤ limit) :
    (shiftToTargetExponent Format.binary64 mantissa exponent .exact).1.mantissa ≤ mantissa ∧
      (shiftToTargetExponent Format.binary64 mantissa exponent .exact).2 ≤ limit + size := by
  have target := targetExponent_le small low nonneg
  rw [shiftToTargetExponent, shiftToExponent]
  constructor
  · exact mantissa_shiftRight_le _ _
  · dsimp only
    omega

theorem limited_roundWithAccuracy {sign : Sign} {mantissa size : Nat} {exponent limit : Int}
    (small : mantissa < 2 ^ size) (low : exponent ≤ limit) (nonneg : 0 ≤ limit) :
    Limited (limit + 2 * size + 1)
      (roundWithAccuracy Format.binary64 sign mantissa exponent .exact) := by
  have first := shiftToTargetExponent_le small low nonneg
  rw [roundWithAccuracy]
  generalize shiftToTargetExponent Format.binary64 mantissa exponent .exact = shifted at first ⊢
  rcases shifted with ⟨extended, shiftedExponent⟩
  -- A mantissa that is rounded up may have one bit more, and is shifted once more then.
  have rounded : extended.roundedMantissa < 2 ^ (size + 1) := by
    have above := roundedMantissa_le extended
    have below := first.1
    rw [pow_succ]
    dsimp only at below
    omega
  have second := shiftToTargetExponent_le rounded first.2 (by omega)
  dsimp only
  generalize shiftToTargetExponent Format.binary64 _ _ .exact = final at second ⊢
  by_cases zero : final.1.mantissa = 0
  · rw [dif_pos zero]
    exact .zero
  · rw [dif_neg zero]
    exact .finite (second.2.trans (by push_cast; omega))

/-! ### Storing -/

theorem limited_unpack {bits : BitVec 64} {limit : Int} (least : -1074 ≤ limit)
    (most : limit ≤ 970)
    (stored : (@unpackExponent Format.binary64 bits).toNat ≤ limit + 1075) :
    Limited limit (UnpackedFloat.unpack Format.binary64 bits) := by
  have bias : Format.binary64.exponentBias = 1023 := rfl
  delta UnpackedFloat.unpack
  dsimp only
  by_cases special : @unpackExponent Format.binary64 bits = -1#11
  · rw [special] at stored
    change (2047 : Int) ≤ limit + 1075 at stored
    omega
  · rw [if_neg special]
    by_cases zero : @unpackExponent Format.binary64 bits = 0#11
    · rw [if_pos zero]
      by_cases whole : @unpackMantissa Format.binary64 bits = 0#52
      · rw [dif_pos whole]
        exact .zero
      · rw [dif_neg whole]
        refine .finite ?_
        rw [zero, bias]
        change (0 : Int) - (1023 + 52) + 1 ≤ limit
        omega
    · rw [if_neg zero]
      refine .finite ?_
      rw [bias]
      change (_ : Int) - (1023 + 52) ≤ limit
      omega

/-- Numbers whose exponents are far from the largest one are stored as such. -/
theorem limited_pack {number : UnpackedFloat} {limit : Int} (limited : Limited limit number)
    (least : -1074 ≤ limit) (most : limit ≤ 970) :
    Limited limit (Float.Model.pack number).unpack := by
  apply limited_unpack least most
  change ((@unpackExponent Format.binary64
    (UnpackedFloat.pack Format.binary64 number)).toNat : Int) ≤ limit + 1075
  have bias : Format.binary64.exponentBias = 1023 := rfl
  cases limited with
  | zero =>
      change ((@unpackExponent Format.binary64 (packComponents _ _ 0 0)).toNat : Int) ≤ _
      rw [unpackExponent_packComponents]
      change (0 : Int) ≤ limit + 1075
      omega
  | @finite sign mantissa exponent positive low =>
      delta UnpackedFloat.pack
      dsimp only
      rw [bias, if_neg (by omega)]
      by_cases normal : mantissa.log2 + 1 = Format.binary64.mantissaBits
      · rw [if_pos normal, unpackExponent_packComponents, BitVec.toNat_ofNat]
        have reduced := Nat.mod_le (exponent + 1023 + 52).toNat (2 ^ 11)
        push_cast at *
        omega
      · rw [if_neg normal, unpackExponent_packComponents]
        change (0 : Int) ≤ limit + 1075
        omega

/-! ### Whole numbers -/

theorem limited_round {sign : Sign} {number : Nat} (small : number < 2 ^ 64) :
    Limited 233 (UnpackedFloat.round Format.binary64 sign number 0) := by
  have target : Format.binary64.targetExponent (totalExponent number 0) =
      max ((number.log2 : Int) + 1 + 0 - 53) (-1074) := rfl
  rw [UnpackedFloat.round, target, decreaseExponent]
  -- Up to 52 bits are added to reach the mantissas that are stored.
  generalize shift : ((0 : Int) - max ((number.log2 : Int) + 1 + 0 - 53) (-1074)).toNat = count
  have few : 2 ^ count ≤ 2 ^ 52 := Nat.pow_le_pow_right (by decide) (by omega)
  have shifted : number <<< count < 2 ^ 116 := by
    rw [Nat.shiftLeft_eq]
    calc number * 2 ^ count ≤ number * 2 ^ 52 := Nat.mul_le_mul_left number few
      _ < 2 ^ 116 := by omega
  exact limited_roundWithAccuracy shifted (by omega) (Int.le_refl 0)

theorem limited_toFloat (number : UInt64) : Limited 233 number.toFloat.toModel.unpack := by
  apply limited_pack _ (by decide) (by decide)
  change Limited 233 (UnpackedFloat.normalize Format.binary64 number.toNat 0 .positive)
  rw [UnpackedFloat.normalize]
  split
  · exact limited_round (by omega)
  · exact .zero
  · exact limited_round number.toNat_lt

theorem limited_mul_one {value : Float} (limited : Limited 233 value.toModel.unpack) :
    Limited 444 (value * Float.ofBits 0x3FF0000000000000).toModel.unpack := by
  apply limited_pack _ (by decide) (by decide)
  have one : (Float.ofBits 0x3FF0000000000000).toModel.unpack =
      .finite .positive (2 ^ 52) (-52) (by decide) := rfl
  rw [one]
  generalize unpacked : value.toModel.unpack = number at limited ⊢
  cases limited with
  | zero => exact .zero
  | @finite sign mantissa exponent positive low =>
      have small := (unpack_bounds unpacked).2.1
      have product : mantissa * 2 ^ 52 < 2 ^ 105 := by omega
      exact limited_roundWithAccuracy product (by omega : exponent + -52 ≤ 233) (by decide)

theorem mul_finite {m n : Nat} {d e : Int} (positiveM : 0 < m) (positiveN : 0 < n) :
    UnpackedFloat.mul Format.binary64 (.finite .positive m d positiveM)
        (.finite .positive n e positiveN) =
      roundWithAccuracy Format.binary64 .positive (m * n) (d + e) .exact := rfl

theorem limited_ofScientific {number : Nat} (small : number < 2 ^ 64) :
    Limited 444 (OfScientific.ofScientific number false 0 : Float).toModel.unpack := by
  change Limited 444 (Float.ofScientific number false 0).toModel.unpack
  rw [Float.ofScientific]
  split
  · exact limited_mul_one (limited_toFloat _)
  · apply limited_pack _ (by decide) (by decide)
    change Limited 444 (UnpackedFloat.ofScientific Format.binary64 number 0)
    rw [UnpackedFloat.ofScientific]
    by_cases zero : number = 0
    · rw [dif_pos zero]
      exact .zero
    · have shifted : number <<< Format.binary64.mantissaBits * 10 ^ Int.toNat 0 < 2 ^ 117 := by
        change number <<< 53 * 1 < 2 ^ 117
        rw [Nat.shiftLeft_eq]
        omega
      rw [dif_neg zero, if_neg (by decide), if_neg (by simp), if_pos (by decide), mul_finite]
      have low : -(Format.binary64.mantissaBits : Int) + 0 ≤ 0 := by decide
      exact (limited_roundWithAccuracy shifted low (Int.le_refl 0)).mono (by decide)

/-- A whole number of 64 bits is read as it is, with its sign. -/
theorem ofDecimal_whole (negative : Bool) {digits : Nat} (small : digits < 2 ^ 64) :
    ofDecimal negative digits 0 =
      if negative then -OfScientific.ofScientific digits false 0
      else OfScientific.ofScientific digits false 0 := by
  have short : (Nat.toDigits 10 digits).length ≤ 20 :=
    (Nat.length_toDigits_le_iff (by decide) (by decide)).mpr (small.trans (by decide))
  have range : decimalRange = 400 := rfl
  have magnitude :
      (if digits = 0 ∨ (Nat.toDigits 10 digits).length + (0 : Int) < -decimalRange then (0 : Float)
        else if decimalRange < (Nat.toDigits 10 digits).length + (0 : Int) then 1 / 0
        else if (0 : Int) < 0 then OfScientific.ofScientific digits true (Int.natAbs 0)
        else OfScientific.ofScientific digits false (Int.natAbs 0)) =
      OfScientific.ofScientific digits false 0 := by
    by_cases zero : digits = 0
    · rw [if_pos (.inl zero), zero]
      rfl
    · rw [if_neg (by omega), if_neg (by omega), if_neg (by decide)]
      rfl
  rw [ofDecimal, magnitude]

instance : Wholes Float where
  isFinite_ofNat small := isFinite_of_limited (limited_ofScientific small)
  isFinite_ofDecimal negative {digits} small := by
    have limited := limited_ofScientific small
    change isFinite (ofDecimal negative digits 0) = true
    rw [ofDecimal_whole negative small]
    cases negative with
    | false => exact isFinite_of_limited limited
    | true =>
        exact isFinite_of_limited (limited_pack limited.neg (by decide) (by decide))

end Binary

end PageSketch.Scalar
