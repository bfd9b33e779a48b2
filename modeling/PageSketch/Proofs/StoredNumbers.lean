import PageSketch.Proofs.FaithfulRounding
import PageSketch.Proofs.WholeNumbers

/-! # Canonical numbers as stored

Canonical numbers are ordered by how many units there are in them. They are stored without loss
as long as their exponents are small enough, and these are the finite numbers. -/

namespace PageSketch.Scalar.Binary

open Float.Model Float.Model.UnpackedFloat

/-! ## The order of units -/

/-- A larger exponent or a larger mantissa means more units. -/
theorem units_le_iff {m n : Nat} {d e : Int} (smallM : m < 2 ^ 53) (smallN : n < 2 ^ 53)
    (leastM : -1074 ≤ d) (leastN : -1074 ≤ e) (fullM : d = -1074 ∨ 2 ^ 52 ≤ m)
    (fullN : e = -1074 ∨ 2 ^ 52 ≤ n) :
    m * 2 ^ (d + 1075).toNat ≤ n * 2 ^ (e + 1075).toNat ↔ d < e ∨ d = e ∧ m ≤ n := by
  rcases Int.lt_trichotomy d e with below | rfl | above
  · have less := mul_two_pow_lt smallM (fullN.resolve_left (by omega))
      (by omega : (d + 1075).toNat < (e + 1075).toNat)
    exact iff_of_true less.le (.inl below)
  · rw [Nat.mul_le_mul_right_iff (Nat.two_pow_pos _)]
    omega
  · have more := mul_two_pow_lt smallN (fullM.resolve_left (by omega))
      (by omega : (e + 1075).toNat < (d + 1075).toNat)
    exact iff_of_false more.not_ge (by omega)

theorem le_iff_of_rank {a b : UnpackedFloat} {low high : Int × Int × Int}
    (rankA : rank? a = some low) (rankB : rank? b = some high) :
    a.le b = true ↔ RankLE low high := by
  rw [le_iff_rank, rankA, rankB]
  simp

/-- Canonical numbers compare as their units do. -/
theorem le_iff_units {a b : UnpackedFloat} (canonicalA : Canonical a) (canonicalB : Canonical b) :
    a.le b = true ↔ units a ≤ units b := by
  cases canonicalA with
  | zero =>
      cases canonicalB with
      | zero =>
          rw [le_iff_of_rank rfl rfl, RankLE, units_zero, units_zero]
          omega
      | @finite signB mantissaB exponentB positiveB smallB leastB fullB =>
          have unitsB := Nat.mul_pos positiveB (Nat.two_pow_pos (exponentB + 1075).toNat)
          cases signB <;>
            rw [le_iff_of_rank rfl rfl, RankLE, units_zero, units_finite, Sign.apply]
          all_goals omega
  | @finite signA mantissaA exponentA positiveA smallA leastA fullA =>
      have unitsA := Nat.mul_pos positiveA (Nat.two_pow_pos (exponentA + 1075).toNat)
      cases canonicalB with
      | zero =>
          cases signA <;>
            rw [le_iff_of_rank rfl rfl, RankLE, units_zero, units_finite, Sign.apply]
          all_goals omega
      | @finite signB mantissaB exponentB positiveB smallB leastB fullB =>
          have unitsB := Nat.mul_pos positiveB (Nat.two_pow_pos (exponentB + 1075).toNat)
          have forward := units_le_iff smallA smallB leastA leastB fullA fullB
          have backward := units_le_iff smallB smallA leastB leastA fullB fullA
          cases signA <;> cases signB <;>
            rw [le_iff_of_rank rfl rfl, RankLE, units_finite, units_finite, Sign.apply, Sign.apply]
          case negative.negative =>
            rw [Int.neg_le_neg_iff, Int.neg_le_neg_iff, Int.ofNat_le, Int.ofNat_le, backward]
            dsimp only
            omega
          case positive.positive =>
            rw [Int.ofNat_le, Int.ofNat_le, forward]
            dsimp only
            omega
          all_goals omega

/-- Fewer units do not need a larger exponent. -/
theorem Limited.of_units_le {a b : UnpackedFloat} {limit : Int} (limited : Limited limit b)
    (canonicalA : Canonical a) (canonicalB : Canonical b)
    (fewer : (units a).natAbs ≤ (units b).natAbs) : Limited limit a := by
  cases canonicalA with
  | zero => exact .zero
  | @finite signA mantissaA exponentA positiveA smallA leastA fullA =>
      have unitsA := Nat.mul_pos positiveA (Nat.two_pow_pos (exponentA + 1075).toNat)
      rw [units_finite, natAbs_apply, Int.natAbs_natCast] at fewer
      cases canonicalB with
      | zero => exact absurd fewer (Nat.not_le_of_lt unitsA)
      | @finite signB mantissaB exponentB positiveB smallB leastB fullB =>
          rw [units_finite, natAbs_apply, Int.natAbs_natCast,
            units_le_iff smallA smallB leastA leastB fullA fullB] at fewer
          cases limited with
          | finite low => exact .finite (by omega)

/-! ## Storing -/

/-- The numbers that are finite are those that have one of the exponents there are. -/
theorem isFinite_iff_canonical {value : Float} :
    isFinite value = true ↔
      Canonical value.toModel.unpack ∧ Limited 971 value.toModel.unpack := by
  have known : Scalar.reading value = reading value := rfl
  rw [isFinite, known, reading]
  cases unpacked : value.toModel.unpack with
  | notANumber => exact iff_of_false Bool.false_ne_true fun both => by cases both.1
  | infinity sign => exact iff_of_false Bool.false_ne_true fun both => by cases both.1
  | zero sign => exact iff_of_true rfl ⟨.zero, .zero⟩
  | finite sign mantissa exponent positive =>
      rcases unpack_bounds unpacked with ⟨most, small, least, full⟩
      exact iff_of_true rfl ⟨.finite small least full, .finite most⟩

theorem ofBitVec_unpackSign {format : Format} (sign : Sign) (exponent : BitVec format.exponentBits)
    (mantissa : BitVec format.mantissaBitsWithoutImplicit) :
    Sign.ofBitVec (unpackSign (packComponents format sign exponent mantissa)) = sign := by
  have stored : unpackSign (packComponents format sign exponent mantissa) = sign.toBitVec := by
    ext index inside
    obtain rfl : index = 0 := by omega
    delta unpackSign packComponents
    simp [BitVec.getLsbD_append, BitVec.getElem_append]
  rw [stored]
  cases sign <;> rfl

section Components

variable {bits : BitVec 64} {sign : Sign} {exponent : BitVec 11} {mantissa : BitVec 52}

theorem unpack_normal (storedSign : .ofBitVec (@unpackSign Format.binary64 bits) = sign)
    (storedExponent : @unpackExponent Format.binary64 bits = exponent)
    (storedMantissa : @unpackMantissa Format.binary64 bits = mantissa)
    (special : exponent ≠ -1#11) (least : exponent ≠ 0#11) :
    UnpackedFloat.unpack Format.binary64 bits =
      .finite sign (2 ^ 52 + mantissa.toNat) (exponent.toNat - 1075) (by omega) := by
  delta UnpackedFloat.unpack
  dsimp only
  rw [if_neg (storedExponent ▸ special), if_neg (storedExponent ▸ least), finite.injEq,
    toNat_hidden_append, storedMantissa, storedExponent]
  exact ⟨storedSign, rfl, rfl⟩

theorem unpack_least (storedSign : .ofBitVec (@unpackSign Format.binary64 bits) = sign)
    (storedExponent : @unpackExponent Format.binary64 bits = 0#11)
    (storedMantissa : @unpackMantissa Format.binary64 bits = mantissa)
    (nonzero : 0 < mantissa.toNat) :
    UnpackedFloat.unpack Format.binary64 bits =
      .finite sign mantissa.toNat (-1074) nonzero := by
  have ordinary : (0#11 : BitVec 11) ≠ -1#11 := by decide
  have written : mantissa ≠ 0#52 := by
    rintro rfl
    exact Nat.lt_irrefl 0 nonzero
  delta UnpackedFloat.unpack
  dsimp only
  rw [if_neg (storedExponent ▸ ordinary), if_pos storedExponent,
    dif_neg (storedMantissa ▸ written), finite.injEq, storedMantissa, storedExponent]
  exact ⟨storedSign, rfl, rfl⟩

end Components

section Packed

variable {sign : Sign} {mantissa : Nat} {exponent : Int} {positive : 0 < mantissa}

theorem unpack_packed_normal (full : 2 ^ 52 ≤ mantissa) (small : mantissa < 2 ^ 53)
    (least : -1074 ≤ exponent) (most : exponent ≤ 971) :
    UnpackedFloat.unpack Format.binary64 (packComponents Format.binary64 sign
        (BitVec.ofNat 11 (exponent + 1075).toNat) (BitVec.ofNat 52 mantissa)) =
      .finite sign mantissa exponent positive := by
  have stored : (BitVec.ofNat 11 (exponent + 1075).toNat).toNat = (exponent + 1075).toNat := by
    rw [BitVec.toNat_ofNat]
    omega
  have hidden : 2 ^ 52 + (BitVec.ofNat 52 mantissa).toNat = mantissa := by
    rw [BitVec.toNat_ofNat]
    omega
  have special : BitVec.ofNat 11 (exponent + 1075).toNat ≠ -1#11 := by
    intro equal
    rw [equal] at stored
    change 2047 = _ at stored
    omega
  have lowest : BitVec.ofNat 11 (exponent + 1075).toNat ≠ 0#11 := by
    intro equal
    rw [equal] at stored
    change 0 = _ at stored
    omega
  rw [unpack_normal (ofBitVec_unpackSign sign _ _) unpackExponent_packComponents
    unpackMantissa_packComponents special lowest, finite.injEq, stored]
  exact ⟨rfl, hidden, by omega⟩

theorem unpack_packed_least (small : mantissa < 2 ^ 52) :
    UnpackedFloat.unpack Format.binary64
        (packComponents Format.binary64 sign 0#11 (BitVec.ofNat 52 mantissa)) =
      .finite sign mantissa (-1074) positive := by
  have written : (BitVec.ofNat 52 mantissa).toNat = mantissa := by
    rw [BitVec.toNat_ofNat]
    omega
  rw [unpack_least (ofBitVec_unpackSign sign _ _) unpackExponent_packComponents
    unpackMantissa_packComponents (by omega), finite.injEq]
  exact ⟨rfl, written, rfl⟩

end Packed

/-- Nothing is lost when a canonical number is stored, if its exponent is one there is. -/
theorem unpack_pack {number : UnpackedFloat} (canonical : Canonical number)
    (limited : Limited 971 number) : (Float.Model.pack number).unpack = number := by
  have bias : Format.binary64.exponentBias = 1023 := rfl
  have size : Format.binary64.mantissaBits = 53 := rfl
  cases canonical with
  | @zero sign => cases sign <;> rfl
  | @finite sign mantissa exponent positive small least full =>
      cases limited with
      | finite most =>
          have biased : (exponent + (1023 : Nat) + (52 : Nat)).toNat = (exponent + 1075).toNat := by
            omega
          change UnpackedFloat.unpack Format.binary64
            (UnpackedFloat.pack Format.binary64 (.finite sign mantissa exponent positive)) = _
          delta UnpackedFloat.pack
          dsimp only
          have bits : mantissa.log2 + 1 = 53 ↔ 2 ^ 52 ≤ mantissa ∧ mantissa < 2 ^ 53 :=
            Nat.add_right_cancel_iff.trans (Nat.log2_eq_iff positive.ne')
          rw [bias, size, biased, if_neg (by omega)]
          by_cases normal : 2 ^ 52 ≤ mantissa
          · rw [if_pos (bits.mpr ⟨normal, small⟩)]
            exact unpack_packed_normal normal small least most
          · obtain rfl : exponent = -1074 := full.resolve_right normal
            rw [if_neg fun filled => normal (bits.mp filled).1]
            exact unpack_packed_least (Nat.lt_of_not_le normal)

/-- A number with a larger exponent is stored as infinity. -/
theorem exists_unpack_pack_infinity {number : UnpackedFloat} (canonical : Canonical number)
    (unlimited : ¬Limited 971 number) :
    ∃ sign, (Float.Model.pack number).unpack = .infinity sign := by
  have bias : Format.binary64.exponentBias = 1023 := rfl
  cases canonical with
  | zero => exact absurd .zero unlimited
  | @finite sign mantissa exponent positive small least full =>
      have above : 971 < exponent := by
        by_contra most
        exact unlimited (.finite (by omega))
      refine ⟨sign, ?_⟩
      change UnpackedFloat.unpack Format.binary64
        (UnpackedFloat.pack Format.binary64 (.finite sign mantissa exponent positive)) = _
      delta UnpackedFloat.pack
      dsimp only
      rw [bias, if_pos (by omega)]
      cases sign <;> rfl

end PageSketch.Scalar.Binary
