import PageSketch.Proofs.CoordinateRange

/-! # Rounding between binary numbers

Addition, subtraction and halving of binary floating point numbers round without ever going
beyond a number that can be represented. All finite numbers are multiples of `2 ^ -1074`, which
are counted here in halves, so that half of a number is a whole number of units as well. The
exponent of a number of `2 ^ count` units is `count - 1075`. -/

namespace PageSketch.Scalar.Binary

open Float.Model Float.Model.UnpackedFloat

/-! ## Truncated mantissas -/

/-- The mantissa is the number without its last `count` bits, and the bits beside it are clear
exactly if nothing has been lost. -/
structure Truncates (number count : Nat) (extended : ExtendedMantissa) : Prop where
  mantissa : extended.mantissa = number / 2 ^ count
  exact : extended.roundBit = false ∧ extended.stickyBit = false ↔ 2 ^ count ∣ number

section Truncation

variable {number count : Nat} {extended : ExtendedMantissa}

theorem Truncates.shiftRightOne (truncates : Truncates number count extended) :
    Truncates number (count + 1) extended.shiftRightOne where
  mantissa := by
    rw [ExtendedMantissa.shiftRightOne, truncates.mantissa, pow_succ, Nat.div_div_eq_div_mul]
  exact := by
    have split : 2 ^ (count + 1) ∣ number ↔ 2 ^ count ∣ number ∧ 2 ∣ number / 2 ^ count := by
      rw [pow_succ]
      constructor
      · intro divides
        have whole := Nat.dvd_trans (Nat.dvd_mul_right (2 ^ count) 2) divides
        exact ⟨whole, (Nat.dvd_div_iff_mul_dvd whole).mpr divides⟩
      · rintro ⟨whole, even⟩
        exact (Nat.dvd_div_iff_mul_dvd whole).mp even
    rw [split, ← truncates.exact, ← truncates.mantissa, Nat.dvd_iff_mod_eq_zero]
    simp only [ExtendedMantissa.shiftRightOne, Bool.or_eq_false_iff, bne_eq_false_iff_eq]
    exact and_comm

theorem Truncates.shiftRight (truncates : Truncates number count extended) (more : Nat) :
    Truncates number (count + more) (extended >>> more) := by
  change Truncates number (count + more) (more.repeat ExtendedMantissa.shiftRightOne extended)
  induction more with
  | zero => exact truncates
  | succ more induction => exact induction.shiftRightOne

theorem Truncates.rounded (truncates : Truncates number count extended) :
    number / 2 ^ count ≤ extended.roundedMantissa ∧
      extended.roundedMantissa ≤ number / 2 ^ count + 1 ∧
      (2 ^ count ∣ number → extended.roundedMantissa = number / 2 ^ count) := by
  rw [← truncates.exact, ← truncates.mantissa]
  rcases extended with ⟨mantissa, _ | _, _ | _⟩ <;>
    simp [ExtendedMantissa.roundedMantissa, ExtendedMantissa.accuracy,
      Accuracy.roundToNearestEven]
  omega

end Truncation

/-! ## Representable numbers -/

/-- So many units can be represented: they are a mantissa of 53 bits times a power of two. -/
def Representable (number : Nat) : Prop :=
  ∃ mantissa count, mantissa < 2 ^ 53 ∧ 1 ≤ count ∧ number = mantissa * 2 ^ count

/-- The rounded number lies on the same side of every number that can be represented. -/
def Rounds (exact rounded : Int) : Prop :=
  ∀ number : Int, Representable number.natAbs →
    (exact ≤ number → rounded ≤ number) ∧ (number ≤ exact → number ≤ rounded)

theorem Rounds.self (number : Int) : Rounds number number := fun _ _ => ⟨id, id⟩

theorem Rounds.neg {exact rounded : Int} (rounds : Rounds exact rounded) :
    Rounds (-exact) (-rounded) := by
  intro number representable
  have opposite := rounds (-number) ((Int.natAbs_neg number).symm ▸ representable)
  constructor
  · intro below
    have above := opposite.2 (by omega)
    omega
  · intro above
    have below := opposite.1 (by omega)
    omega

theorem Rounds.apply {exact rounded : Int} (rounds : Rounds exact rounded) (sign : Sign) :
    Rounds (sign.apply exact) (sign.apply rounded) := by
  cases sign with
  | negative => exact rounds.neg
  | positive => exact rounds

/-- A mantissa that is full outweighs every mantissa with a smaller exponent. -/
theorem mul_two_pow_lt {m n low high : Nat} (small : m < 2 ^ 53) (full : 2 ^ 52 ≤ n)
    (below : low < high) : m * 2 ^ low < n * 2 ^ high := by
  calc m * 2 ^ low < 2 ^ 53 * 2 ^ low := Nat.mul_lt_mul_of_pos_right small (Nat.two_pow_pos low)
    _ = 2 ^ (53 + low) := (Nat.pow_add 2 53 low).symm
    _ ≤ 2 ^ (52 + high) := Nat.pow_le_pow_right (by decide) (by omega)
    _ = 2 ^ 52 * 2 ^ high := Nat.pow_add 2 52 high
    _ ≤ n * 2 ^ high := Nat.mul_le_mul_right _ full

section Truncation

variable {number count : Nat} {extended : ExtendedMantissa}

theorem Truncates.rounds_multiple (truncates : Truncates number count extended) (multiple : Nat) :
    (number ≤ multiple * 2 ^ count → extended.roundedMantissa ≤ multiple) ∧
      (multiple * 2 ^ count ≤ number → multiple ≤ extended.roundedMantissa) := by
  have positive : 0 < 2 ^ count := Nat.two_pow_pos count
  rcases truncates.rounded with ⟨above, below, exact⟩
  constructor
  · intro before
    by_cases divides : 2 ^ count ∣ number
    · rw [exact divides, Nat.div_le_iff_le_mul_add_pred positive, Nat.mul_comm]
      omega
    · have strict : number < multiple * 2 ^ count :=
        before.lt_of_ne fun equal => divides (equal ▸ Nat.dvd_mul_left _ _)
      have quotient := (Nat.div_lt_iff_lt_mul positive).mpr strict
      omega
  · intro after
    have quotient := (Nat.le_div_iff_mul_le positive).mpr after
    omega

/-- It is enough that the last bit kept is not too high: a number that can be represented either
is a multiple of it or lies below all that is kept. -/
theorem Truncates.rounds (truncates : Truncates number count extended)
    (full : count = 1 ∨ 2 ^ 52 ≤ number / 2 ^ count) :
    Rounds number (extended.roundedMantissa * 2 ^ count : Nat) := by
  have natural : ∀ other, Representable other →
      (number ≤ other → extended.roundedMantissa * 2 ^ count ≤ other) ∧
        (other ≤ number → other ≤ extended.roundedMantissa * 2 ^ count) := by
    rintro _ ⟨mantissa, least, small, counted, rfl⟩
    by_cases coarse : count ≤ least
    · rcases Nat.exists_eq_add_of_le coarse with ⟨more, rfl⟩
      rw [Nat.pow_add, Nat.mul_comm (2 ^ count), ← Nat.mul_assoc]
      have sides := truncates.rounds_multiple (mantissa * 2 ^ more)
      exact ⟨fun before => Nat.mul_le_mul_right _ (sides.1 before),
        fun after => Nat.mul_le_mul_right _ (sides.2 after)⟩
    · have fine := mul_two_pow_lt small (full.resolve_left (by omega)) (Nat.lt_of_not_le coarse)
      have truncated := Nat.div_mul_le_self number (2 ^ count)
      have rounded := Nat.mul_le_mul_right (2 ^ count) truncates.rounded.1
      omega
  intro other representable
  have chosen := natural other.natAbs representable
  omega

end Truncation

/-! ## Canonical numbers -/

/-- A number that is finite, with a mantissa of as many bits as there are unless it is one of the
smallest numbers. -/
inductive Canonical : UnpackedFloat → Prop
  | zero {sign : Sign} : Canonical (.zero sign)
  | finite {sign : Sign} {mantissa : Nat} {exponent : Int} {positive : 0 < mantissa}
      (small : mantissa < 2 ^ 53) (least : -1074 ≤ exponent)
      (full : exponent = -1074 ∨ 2 ^ 52 ≤ mantissa) :
      Canonical (.finite sign mantissa exponent positive)

/-- How many units there are in a number. -/
def units : UnpackedFloat → Int
  | .finite sign mantissa exponent _ => sign.apply ((mantissa * 2 ^ (exponent + 1075).toNat : Nat))
  | .zero _ | .infinity _ | .notANumber => 0

theorem units_zero (sign : Sign) : units (.zero sign) = 0 := rfl

theorem units_finite {sign : Sign} {mantissa : Nat} {exponent : Int} {positive : 0 < mantissa} :
    units (.finite sign mantissa exponent positive) =
      sign.apply (mantissa * 2 ^ (exponent + 1075).toNat : Nat) := rfl

theorem natAbs_apply (sign : Sign) (number : Int) : (sign.apply number).natAbs = number.natAbs := by
  cases sign with
  | negative => exact Int.natAbs_neg number
  | positive => rfl

theorem Canonical.representable {number : UnpackedFloat} (canonical : Canonical number) :
    Representable (units number).natAbs := by
  cases canonical with
  | zero => exact ⟨0, 1, by decide, by decide, rfl⟩
  | @finite sign mantissa exponent positive small least full =>
      refine ⟨mantissa, (exponent + 1075).toNat, small, by omega, ?_⟩
      rw [units_finite, natAbs_apply, Int.natAbs_natCast]

theorem Canonical.neg {number : UnpackedFloat} (canonical : Canonical number) :
    Canonical number.neg := by
  cases canonical with
  | zero => exact .zero
  | finite small least full => exact .finite small least full

theorem units_neg (number : UnpackedFloat) : units number.neg = -units number := by
  rcases number with _ | _ | _ | ⟨_ | _, _, _, _⟩
  · rfl
  · rfl
  · rfl
  · exact (Int.neg_neg _).symm
  · rfl

/-! ## Rounding -/

theorem targetExponent_eq (mantissa : Nat) (exponent : Int) :
    Format.binary64.targetExponent (totalExponent mantissa exponent) =
      max (mantissa.log2 + 1 + exponent - 53) (-1074) := rfl

/-- The first shift leaves as many bits as there are in a mantissa, and no more. -/
theorem full_shiftToTargetExponent {number count mantissa : Nat} {accuracy : Accuracy}
    (truncates :
      Truncates number count (ExtendedMantissa.ofMantissaAndAccuracy mantissa accuracy))
    (early : (count - 1075 : Int) ≤
      Format.binary64.targetExponent (totalExponent mantissa (count - 1075))) :
    ∃ (extended : ExtendedMantissa) (shifted : Nat), 1 ≤ shifted ∧
      shiftToTargetExponent Format.binary64 mantissa (count - 1075) accuracy =
        (extended, (shifted - 1075 : Int)) ∧
      Truncates number shifted extended ∧ number / 2 ^ shifted < 2 ^ 53 ∧
      (shifted = 1 ∨ 2 ^ 52 ≤ number / 2 ^ shifted) := by
  have kept : mantissa = number / 2 ^ count := by
    rw [← truncates.mantissa]
    rcases accuracy with _ | _ | _ | _ <;> rfl
  have known := targetExponent_eq mantissa (count - 1075)
  generalize exponent :
    Format.binary64.targetExponent (totalExponent mantissa (count - 1075)) = target at *
  rcases Int.eq_ofNat_of_zero_le (sub_nonneg.mpr early) with ⟨more, shift⟩
  have rest : number / 2 ^ (count + more) = mantissa / 2 ^ more := by
    rw [kept, Nat.pow_add, Nat.div_div_eq_div_mul]
  refine ⟨ExtendedMantissa.ofMantissaAndAccuracy mantissa accuracy >>> more, count + more,
    by omega, ?_, truncates.shiftRight more, ?_, ?_⟩
  · rw [shiftToTargetExponent, shiftToExponent, exponent, shift, Int.toNat_natCast, Prod.mk.injEq]
    exact ⟨rfl, by push_cast; omega⟩
  · rw [rest, Nat.div_lt_iff_lt_mul (Nat.two_pow_pos more), ← Nat.pow_add]
    exact Nat.lt_log2_self.trans_le (Nat.pow_le_pow_right (by decide) (by omega))
  · by_cases least : count + more = 1
    · exact .inl least
    · have size : mantissa.log2 = 52 + more := by omega
      have nonzero : mantissa ≠ 0 := by
        rintro rfl
        rw [Nat.log2_zero] at size
        omega
      rw [rest, Nat.le_div_iff_mul_le (Nat.two_pow_pos more), ← Nat.pow_add, ← size]
      exact .inr (Nat.log2_self_le nonzero)

/-- The second shift makes room for a mantissa that was rounded up to one more bit. -/
theorem exact_shiftToTargetExponent {mantissa count : Nat} (counted : 1 ≤ count)
    (small : mantissa ≤ 2 ^ 53) (full : count = 1 ∨ 2 ^ 52 ≤ mantissa) :
    ∃ (extended : ExtendedMantissa) (shifted : Nat), 1 ≤ shifted ∧
      shiftToTargetExponent Format.binary64 mantissa (count - 1075) .exact =
        (extended, (shifted - 1075 : Int)) ∧
      extended.mantissa * 2 ^ shifted = mantissa * 2 ^ count ∧ extended.mantissa < 2 ^ 53 ∧
      (shifted = 1 ∨ 2 ^ 52 ≤ extended.mantissa) := by
  have known := targetExponent_eq mantissa (count - 1075)
  rcases small.eq_or_lt with rfl | fits
  · rw [Nat.log2_two_pow] at known
    have shift :
        Format.binary64.targetExponent (totalExponent (2 ^ 53) (count - 1075)) - (count - 1075) =
          1 := by
      omega
    refine ⟨⟨2 ^ 52, false, false⟩, count + 1, by omega, ?_, ?_, by decide, .inr le_rfl⟩
    · rw [shiftToTargetExponent, shiftToExponent, shift, Prod.mk.injEq]
      exact ⟨rfl, by push_cast; omega⟩
    · change 2 ^ 52 * 2 ^ (count + 1) = 2 ^ 53 * 2 ^ count
      rw [← Nat.pow_add, ← Nat.pow_add, ← Nat.succ_add_eq_add_succ]
  · have bits : mantissa.log2 ≤ 52 := by
      by_cases zero : mantissa = 0
      · rw [zero, Nat.log2_zero]
        exact Nat.zero_le 52
      · exact Nat.le_of_lt_succ ((Nat.log2_lt zero).mpr fits)
    have shift : (Format.binary64.targetExponent (totalExponent mantissa (count - 1075)) -
        (count - 1075)).toNat = 0 := by
      omega
    refine ⟨⟨mantissa, false, false⟩, count, counted, ?_, rfl, fits, full⟩
    rw [shiftToTargetExponent, shiftToExponent, shift, Prod.mk.injEq]
    exact ⟨rfl, by omega⟩

/-- A number that is told up to a bit that may be kept is rounded. -/
theorem rounds_roundWithAccuracy {number count mantissa : Nat} {accuracy : Accuracy} (sign : Sign)
    (truncates :
      Truncates number count (ExtendedMantissa.ofMantissaAndAccuracy mantissa accuracy))
    (early : (count - 1075 : Int) ≤
      Format.binary64.targetExponent (totalExponent mantissa (count - 1075))) :
    Canonical (roundWithAccuracy Format.binary64 sign mantissa (count - 1075) accuracy) ∧
      Rounds (sign.apply number)
        (units (roundWithAccuracy Format.binary64 sign mantissa (count - 1075) accuracy)) := by
  rcases full_shiftToTargetExponent truncates early with
    ⟨extended, shifted, counted, first, kept, fits, full⟩
  have rounded := kept.rounded
  have small : extended.roundedMantissa ≤ 2 ^ 53 := by omega
  rcases exact_shiftToTargetExponent counted small
    (full.imp_right fun enough => enough.trans rounded.1) with
    ⟨final, last, lastCounted, second, same, finalFits, finalFull⟩
  have rounds := (kept.rounds full).apply sign
  rw [← same] at rounds
  rw [roundWithAccuracy, first]
  dsimp only
  rw [second]
  dsimp only
  by_cases zero : final.mantissa = 0
  · rw [dif_pos zero]
    rw [zero, Nat.zero_mul] at rounds
    refine ⟨.zero, ?_⟩
    cases sign <;> exact rounds
  · rw [dif_neg zero]
    refine ⟨.finite finalFits (by omega) (finalFull.imp_left (by omega)), ?_⟩
    have unit : ((last : Int) - 1075 + 1075).toNat = last := by omega
    rw [units_finite, unit]
    exact rounds

theorem truncates_exact (mantissa count : Nat) :
    Truncates (mantissa * 2 ^ count) count
      (ExtendedMantissa.ofMantissaAndAccuracy mantissa .exact) where
  mantissa := (Nat.mul_div_cancel mantissa (Nat.two_pow_pos count)).symm
  exact := iff_of_true ⟨rfl, rfl⟩ (Nat.dvd_mul_left _ _)

theorem log2_mul_two_pow {mantissa : Nat} (positive : 0 < mantissa) (count : Nat) :
    (mantissa * 2 ^ count).log2 = mantissa.log2 + count := by
  have nonzero := (Nat.mul_pos positive (Nat.two_pow_pos count)).ne'
  rw [Nat.log2_eq_iff nonzero, Nat.add_right_comm, Nat.pow_add, Nat.pow_add]
  exact ⟨Nat.mul_le_mul_right _ (Nat.log2_self_le positive.ne'),
    Nat.mul_lt_mul_of_pos_right Nat.lt_log2_self (Nat.two_pow_pos count)⟩

theorem rounds_round {mantissa : Nat} (positive : 0 < mantissa) (sign : Sign) (count : Nat)
    (counted : 1 ≤ count) :
    Canonical (UnpackedFloat.round Format.binary64 sign mantissa (count - 1075)) ∧
      Rounds (sign.apply (mantissa * 2 ^ count : Nat))
        (units (UnpackedFloat.round Format.binary64 sign mantissa (count - 1075))) := by
  have known := targetExponent_eq mantissa (count - 1075)
  generalize target : Format.binary64.targetExponent (totalExponent mantissa (count - 1075)) =
    exponent at known
  generalize shift : ((count - 1075 : Int) - exponent).toNat = more
  rcases Nat.exists_eq_add_of_le (by omega : more ≤ count) with ⟨rest, rfl⟩
  have moved : ((more + rest : Nat) - 1075 : Int) - more = rest - 1075 := by omega
  have early : (rest - 1075 : Int) ≤ Format.binary64.targetExponent
      (totalExponent (mantissa * 2 ^ more) (rest - 1075)) := by
    rw [targetExponent_eq, log2_mul_two_pow positive]
    omega
  rw [UnpackedFloat.round, target, decreaseExponent, shift]
  dsimp only
  rw [Nat.shiftLeft_eq, moved, Nat.pow_add, ← Nat.mul_assoc]
  exact rounds_roundWithAccuracy sign (truncates_exact (mantissa * 2 ^ more) rest) early

/-- A whole number of units, told by a multiple of two of them, is rounded. -/
theorem rounds_normalize (mantissa : Int) (count : Nat) (counted : 1 ≤ count) :
    Canonical (UnpackedFloat.normalize Format.binary64 mantissa (count - 1075) .positive) ∧
      Rounds (mantissa * 2 ^ count)
        (units (UnpackedFloat.normalize Format.binary64 mantissa (count - 1075) .positive)) := by
  rw [UnpackedFloat.normalize]
  split
  · next below =>
      have negative := Int.compare_eq_lt.mp below
      rcases Int.eq_ofNat_of_zero_le (by omega : 0 ≤ -mantissa) with ⟨magnitude, equal⟩
      have positive : 0 < magnitude := by omega
      have rounded := rounds_round positive .negative count counted
      rw [equal, Int.toNat_natCast, show mantissa = -(magnitude : Int) by omega, Int.neg_mul]
      exact_mod_cast rounded
  · next zero =>
      rw [Int.compare_eq_eq.mp zero, Int.zero_mul]
      exact ⟨.zero, .self 0⟩
  · next above =>
      have positive := Int.compare_eq_gt.mp above
      rcases Int.eq_ofNat_of_zero_le positive.le with ⟨magnitude, rfl⟩
      have nonzero : 0 < magnitude := by omega
      have rounded := rounds_round nonzero .positive count counted
      rw [Int.toNat_natCast]
      exact_mod_cast rounded

/-! ## Operations -/

theorem apply_natCast_mul (sign : Sign) (number factor : Nat) :
    sign.apply ((number * factor : Nat) : Int) = sign.apply number * factor := by
  cases sign with
  | negative =>
      exact (congrArg Neg.neg (Int.natCast_mul number factor)).trans (Int.neg_mul _ _).symm
  | positive => exact Int.natCast_mul number factor

theorem apply_neg (sign : Sign) (number : Int) : (-sign).apply number = -sign.apply number := by
  cases sign with
  | negative => exact (Int.neg_neg number).symm
  | positive => rfl

section Finite

variable {signA signB : Sign} {m n : Nat} {d e : Int} {positiveM : 0 < m} {positiveN : 0 < n}

theorem add_finite :
    UnpackedFloat.add Format.binary64 (.finite signA m d positiveM)
        (.finite signB n e positiveN) =
      UnpackedFloat.normalize Format.binary64 (signA.apply (decreaseExponent m d (min d e)).1 +
        signB.apply (decreaseExponent n e (min d e)).1) (min d e) .positive := rfl

theorem sub_finite :
    UnpackedFloat.sub Format.binary64 (.finite signA m d positiveM)
        (.finite signB n e positiveN) =
      UnpackedFloat.normalize Format.binary64 (signA.apply (decreaseExponent m d (min d e)).1 -
        signB.apply (decreaseExponent n e (min d e)).1) (min d e) .positive := rfl

theorem neg_finite :
    (UnpackedFloat.finite signA m d positiveM).neg = .finite (-signA) m d positiveM := rfl

theorem div_finite :
    UnpackedFloat.div Format.binary64 (.finite signA m d positiveM)
        (.finite signB n e positiveN) =
      roundWithAccuracy Format.binary64 (signA / signB) (divCore Format.binary64 m d n e).1
        (divCore Format.binary64 m d n e).2.1 (divCore Format.binary64 m d n e).2.2 := rfl

end Finite

theorem sub_eq_add_neg (a b : UnpackedFloat) :
    UnpackedFloat.sub Format.binary64 a b = UnpackedFloat.add Format.binary64 a b.neg := by
  rcases a with _ | _ | _ | _ <;> rcases b with _ | _ | _ | _
  case finite.finite =>
    rw [neg_finite, add_finite, sub_finite, apply_neg, ← Int.sub_eq_add_neg]
  all_goals rfl

/-- The units of a finite number after its exponent has been decreased. -/
theorem units_decreased {sign : Sign} {mantissa count : Nat} {exponent : Int}
    {positive : 0 < mantissa} (counted : 1 ≤ count) (decreased : (count - 1075 : Int) ≤ exponent) :
    units (.finite sign mantissa exponent positive) =
      sign.apply (decreaseExponent mantissa exponent (count - 1075)).1 * 2 ^ count := by
  have known : (exponent + 1075).toNat = (exponent - (count - 1075)).toNat + count := by omega
  rw [units_finite, decreaseExponent, known, Nat.pow_add, ← Nat.mul_assoc, apply_natCast_mul,
    Nat.shiftLeft_eq]
  push_cast
  rfl

/-- A sum is rounded. -/
theorem rounds_add {a b : UnpackedFloat} (canonicalA : Canonical a) (canonicalB : Canonical b) :
    Canonical (UnpackedFloat.add Format.binary64 a b) ∧
      Rounds (units a + units b) (units (UnpackedFloat.add Format.binary64 a b)) := by
  cases canonicalA with
  | @zero signA =>
      cases canonicalB with
      | @zero signB =>
          cases signA <;> cases signB <;> exact ⟨.zero, .self 0⟩
      | finite small least full =>
          rw [units_zero, Int.zero_add]
          exact ⟨.finite small least full, .self _⟩
  | @finite signA mantissaA exponentA positiveA smallA leastA fullA =>
      cases canonicalB with
      | @zero signB =>
          rw [units_zero, Int.add_zero]
          exact ⟨.finite smallA leastA fullA, .self _⟩
      | @finite signB mantissaB exponentB positiveB smallB leastB fullB =>
          rcases Int.eq_ofNat_of_zero_le (by omega : 0 ≤ min exponentA exponentB + 1075) with
            ⟨count, equal⟩
          have least : min exponentA exponentB = count - 1075 := by omega
          rw [units_decreased (by omega) (by omega : (count - 1075 : Int) ≤ exponentA),
            units_decreased (by omega) (by omega : (count - 1075 : Int) ≤ exponentB),
            ← Int.add_mul, add_finite, least]
          exact rounds_normalize _ count (by omega)

/-- A difference is rounded. -/
theorem rounds_sub {a b : UnpackedFloat} (canonicalA : Canonical a) (canonicalB : Canonical b) :
    Canonical (UnpackedFloat.sub Format.binary64 a b) ∧
      Rounds (units a - units b) (units (UnpackedFloat.sub Format.binary64 a b)) := by
  rw [sub_eq_add_neg, Int.sub_eq_add_neg, ← units_neg]
  exact rounds_add canonicalA canonicalB.neg

/-- Two. -/
def two : UnpackedFloat := .finite .positive (2 ^ 52) (-51) (by decide)

theorem truncates_quotient {number count whole : Nat}
    (same : number * 2 ^ 52 = whole * 2 ^ count) :
    Truncates number count (ExtendedMantissa.ofMantissaAndAccuracy (whole / 2 ^ 52)
      (accuracyOfFraction (whole % 2 ^ 52) (2 ^ 52))) where
  mantissa := by
    have quotient : whole / 2 ^ 52 = number / 2 ^ count := by
      rw [← Nat.mul_div_mul_right number _ (Nat.two_pow_pos 52), same, Nat.mul_comm (2 ^ count),
        Nat.mul_div_mul_right _ _ (Nat.two_pow_pos count)]
    rw [← quotient, accuracyOfFraction]
    split
    · rfl
    · cases compare (2 * (whole % 2 ^ 52)) (2 ^ 52) <;> rfl
  exact := by
    have divides : 2 ^ count ∣ number ↔ whole % 2 ^ 52 = 0 := by
      rw [← Nat.mul_dvd_mul_iff_right (Nat.two_pow_pos 52), same, Nat.mul_comm (2 ^ count),
        Nat.mul_dvd_mul_iff_right (Nat.two_pow_pos count), Nat.dvd_iff_mod_eq_zero]
    rw [divides, accuracyOfFraction]
    split
    · next zero => exact iff_of_true ⟨rfl, rfl⟩ zero
    · next rest =>
        refine iff_of_false ?_ rest
        cases compare (2 * (whole % 2 ^ 52)) (2 ^ 52) <;> rintro ⟨⟨⟩, ⟨⟩⟩

/-- Enough bits have been added to a mantissa before it is divided. -/
theorem le_targetExponent_quotient {mantissa more unit : Nat} (positive : 0 < mantissa)
    (enough : unit = 1 ∨ 104 ≤ mantissa.log2 + more) :
    (unit - 1075 : Int) ≤ Format.binary64.targetExponent
      (totalExponent (mantissa * 2 ^ more / 2 ^ 52) (unit - 1075)) := by
  rw [targetExponent_eq]
  rcases enough with lowest | many
  · omega
  · have filled : 2 ^ 52 ≤ mantissa * 2 ^ more / 2 ^ 52 := by
      rw [Nat.le_div_iff_mul_le (Nat.two_pow_pos 52), ← Nat.pow_add]
      calc 2 ^ (52 + 52) ≤ 2 ^ (mantissa.log2 + more) := Nat.pow_le_pow_right (by decide) many
        _ = 2 ^ mantissa.log2 * 2 ^ more := Nat.pow_add 2 _ _
        _ ≤ mantissa * 2 ^ more := Nat.mul_le_mul_right _ (Nat.log2_self_le positive.ne')
    have bits := (Nat.le_log2 (by omega)).mpr filled
    omega

/-- Half of a number is rounded. -/
theorem rounds_half {number : UnpackedFloat} {half : Int} (canonical : Canonical number)
    (double : units number = 2 * half) :
    Canonical (UnpackedFloat.div Format.binary64 number two) ∧
      Rounds half (units (UnpackedFloat.div Format.binary64 number two)) := by
  cases canonical with
  | zero =>
      have nothing : half = 0 := by
        change 0 = 2 * half at double
        omega
      rw [nothing]
      exact ⟨.zero, .self 0⟩
  | @finite sign mantissa exponent positive small least full =>
      rcases Int.eq_ofNat_of_zero_le (by omega : 0 ≤ exponent + 1074) with ⟨count, known⟩
      have halved : half = sign.apply (mantissa * 2 ^ count : Nat) := by
        have above : (exponent + 1075).toNat = count + 1 := by omega
        rw [units_finite, above, Nat.pow_succ, ← Nat.mul_assoc, apply_natCast_mul] at double
        omega
      -- The exponent to which the number is lowered before it is divided.
      have target : Format.binary64.targetExponent
          (totalExponent mantissa exponent - totalExponent (2 ^ 52) (-51)) =
          max (mantissa.log2 + exponent - 54) (-1074) := by
        change max (mantissa.log2 + 1 + exponent - (52 + 1 + -51) - 53) (-1074) = _
        omega
      rcases Int.eq_ofNat_of_zero_le
        (by omega : 0 ≤ min (exponent - -51) (max (mantissa.log2 + exponent - 54) (-1074)) + 1075)
        with ⟨unit, lowered⟩
      have lowest : min (exponent - -51) (max (mantissa.log2 + exponent - 54) (-1074)) =
          (unit - 1075 : Int) := by
        omega
      generalize shift : (exponent - -51 - (unit - 1075 : Int)).toNat = more
      have same : mantissa * 2 ^ count * 2 ^ 52 = mantissa * 2 ^ more * 2 ^ unit := by
        rw [Nat.mul_assoc, Nat.mul_assoc, ← Nat.pow_add, ← Nat.pow_add]
        congr 2
        omega
      have unsigned : sign / .positive = sign := by cases sign <;> rfl
      rw [halved, two, div_finite, divCore, target, lowest, shift, Nat.shiftLeft_eq, unsigned]
      exact rounds_roundWithAccuracy sign (truncates_quotient same)
        (le_targetExponent_quotient positive (by omega))

end PageSketch.Scalar.Binary
