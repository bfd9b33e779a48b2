import Mathlib.Algebra.Order.Field.Rat
import Mathlib.Tactic.Linarith
import PageSketch.Geometry.LengthText
import PageSketch.Proofs.LengthGrammar
import PageSketch.Proofs.PlainNumerals
import PageSketch.Scalar.Exact

/-! # Lengths as rounded text

Without rounding of coordinates, a length is written as the shortest numeral of its number of
units to three decimals, and from there it is read back as what was written. -/

namespace PageSketch

/-! ## The nearest number -/

/-- The whole number is nearest to the value; if two are, it is the even one. -/
structure NearestEven (value : Rat) (whole : Int) : Prop where
  close : |value - whole| ≤ 1 / 2
  even : |value - whole| = 1 / 2 → whole % 2 = 0

/-- The number with so many decimals that is nearest to the value; if two are, it is the one
whose last decimal is even. -/
def RoundsTo (places : Nat) (value rounded : Rat) : Prop :=
  ∃ units : Int, rounded = units / 10 ^ places ∧ NearestEven (value * 10 ^ places) units

namespace NearestEven

variable {value : Rat} {whole other : Int}

theorem of_lt (close : |value - whole| < 1 / 2) : NearestEven value whole :=
  ⟨close.le, fun half => absurd half close.ne⟩

theorem of_even (close : |value - whole| ≤ 1 / 2) (even : whole % 2 = 0) :
    NearestEven value whole :=
  ⟨close, fun _ => even⟩

theorem self (whole : Int) : NearestEven whole whole where
  close := by simp
  even half := by simp at half

theorem neg (nearest : NearestEven value whole) : NearestEven (-value) (-whole) := by
  have distance : |-value - (-whole : Int)| = |value - whole| := by
    rw [Int.cast_neg, neg_sub_neg, abs_sub_comm]
  refine ⟨distance ▸ nearest.close, fun half => ?_⟩
  have even := nearest.even (distance ▸ half)
  omega

theorem le (nearest : NearestEven value whole) (also : NearestEven value other) :
    other ≤ whole := by
  by_contra less
  have less : whole < other := Int.not_le.mp less
  have upper := (abs_le.mp nearest.close).2
  have lower := (abs_le.mp also.close).1
  have apart : (whole : Rat) + 1 ≤ other := by exact_mod_cast less
  -- Both are as far from the value, and they are neighbours, so one of them is odd.
  have half : value - whole = 1 / 2 := by linarith
  have otherHalf : value - other = -(1 / 2) := by linarith
  have next : (other : Rat) = (whole + 1 : Int) := by
    push_cast
    linarith
  have even := nearest.even (by rw [half]; norm_num)
  have otherEven := also.even (by rw [otherHalf]; norm_num)
  have neighbours : other = whole + 1 := by exact_mod_cast next
  omega

theorem eq (nearest : NearestEven value whole) (also : NearestEven value other) :
    whole = other :=
  le_antisymm (also.le nearest) (nearest.le also)

theorem halfEven (positive : 0 ≤ value) : NearestEven value (Rounding.halfEven value) := by
  have floor : (0 : Int) ≤ value.floor := Rat.le_floor_iff.mpr (by exact_mod_cast positive)
  have whole : ((value.floor.toNat : Nat) : Rat) = (value.floor : Int) := by
    exact_mod_cast Int.toNat_of_nonneg floor
  have below := Rat.floor_le value
  have above := Rat.lt_floor_add_one value
  push_cast at above
  rw [← whole] at below above
  rw [Rounding.halfEven]
  generalize value.floor.toNat = low at below above
  have down : |value - (low : Int)| = value - low := by
    rw [Int.cast_natCast, abs_of_nonneg (by linarith)]
  have up : |value - (low + 1 : Nat)| = 1 - (value - low) := by
    push_cast
    rw [abs_of_nonpos (by linarith)]
    ring
  rw [← Int.cast_natCast (low + 1)] at up
  split
  · next less => exact of_lt (down.trans_lt less)
  · next notLess =>
      split
      · next more => exact of_lt (up.trans_lt (by linarith))
      · next notMore =>
          split
          · next even => exact of_even (down.trans_le (by linarith)) (by omega)
          · next odd => exact of_even (up.trans_le (by linarith)) (by omega)

theorem exists_nearest (value : Rat) : ∃ whole, NearestEven value whole := by
  rcases le_total 0 value with positive | negative
  · exact ⟨_, halfEven positive⟩
  · have nearest := (halfEven (neg_nonneg.mpr negative)).neg
    rw [neg_neg] at nearest
    exact ⟨_, nearest⟩

/-- A value is on the same side of zero as the nearest whole number, unless that is zero. -/
theorem neg_iff (nearest : NearestEven value whole) (something : whole ≠ 0) :
    value < 0 ↔ whole < 0 := by
  rcases abs_le.mp nearest.close with ⟨lower, upper⟩
  rcases lt_or_gt_of_ne something with below | above
  · have negative : (whole : Rat) ≤ -1 := by exact_mod_cast Int.le_sub_one_of_lt below
    exact iff_of_true (by linarith) below
  · have positive : (1 : Rat) ≤ whole := by exact_mod_cast above
    exact iff_of_false (by linarith) above.not_gt

end NearestEven

theorem Rounding.halfEven_abs {value : Rat} {whole : Int} (nearest : NearestEven value whole) :
    Rounding.halfEven |value| = whole.natAbs := by
  have magnitude := NearestEven.halfEven (abs_nonneg value)
  rcases le_total 0 value with positive | negative
  · rw [abs_of_nonneg positive] at magnitude ⊢
    rw [← magnitude.eq nearest, Int.natAbs_natCast]
  · rw [abs_of_nonpos negative] at magnitude ⊢
    rw [← Int.natAbs_neg, ← magnitude.eq nearest.neg, Int.natAbs_natCast]

/-! ## Rounded numbers as numerals -/

namespace PlainNumeral

/-- The numeral for so many units of the last of `places` decimals, with the sign of the count. -/
def ofInt (places : Nat) (units : Int) : PlainNumeral :=
  ofUnits (decide (units < 0)) places units.natAbs

variable {places : Nat} {units : Int}

theorem tight_ofInt : (ofInt places units).Tight := by
  refine tight_ofUnits fun negative => ?_
  have below := of_decide_eq_true negative
  omega

theorem value_ofInt : (ofInt places units).value = units / 10 ^ places := by
  rw [ofInt, value_ofUnits]
  by_cases negative : units < 0
  · have magnitude : ((units.natAbs : Nat) : Rat) = -(units : Rat) := by
      rw [Nat.cast_natAbs, abs_of_neg negative, Int.cast_neg]
    rw [if_pos (decide_eq_true negative), magnitude, neg_div, neg_neg]
  · have magnitude : ((units.natAbs : Nat) : Rat) = units := by
      rw [Nat.cast_natAbs, abs_of_nonneg (Int.not_lt.mp negative)]
    rw [if_neg (by simpa using negative), magnitude]

theorem ofInt_eq_zero (zero : String.ofList (ofInt places units).text = "0" ∨
    String.ofList (ofInt places units).text = "-0") : units = 0 := by
  rw [← String.toList_inj, ← String.toList_inj, String.toList_ofList] at zero
  have value : (ofInt places units).value = 0 := value_of_text (by simpa using zero)
  rw [value_ofInt, div_eq_zero_iff] at value
  exact_mod_cast value.resolve_right (by positivity)

end PlainNumeral

open PlainNumeral

theorem Scalar.Exact.abs_eq (value : Rat) : value.abs = |value| := by
  rcases le_total 0 value with positive | negative
  · rw [Rat.abs_of_nonneg positive, abs_of_nonneg positive]
  · rw [Rat.abs_of_nonpos negative, abs_of_nonpos negative]

theorem Scalar.text_eq {value : Rat} {places : Nat} {units : Int}
    (nearest : NearestEven (value * 10 ^ places) units) :
    Scalar.text places value =
      String.ofList (ofUnits (decide (value < 0)) places units.natAbs).text := by
  have scaled : value.abs * (Nat.pow 10 places : Nat) = |value * 10 ^ places| := by
    have unit : (0 : Rat) < 10 ^ places := by positivity
    rw [Scalar.Exact.abs_eq, abs_mul, abs_of_pos unit, Nat.pow_eq]
    push_cast
    rfl
  have rounded : Decimal.fixed places value.abs = Decimal.fixedUnits places units.natAbs := by
    rw [Decimal.fixed, scaled, Rounding.halfEven_abs nearest]
  rw [text_ofUnits, ← rounded]
  rfl

/-! ## Lengths -/

namespace LengthUnit

variable {length : Length Rat} {units : Int}

theorem size_pos (unit : LengthUnit) : 0 < (unit.size : Length Rat).points := by
  cases unit <;> decide +kernel

theorem inUnit_scale (unit : LengthUnit) (count : Rat) :
    (unit.size.scale count : Length Rat).inUnit unit = count :=
  mul_div_cancel_left₀ count unit.size_pos.ne'

theorem scale_zero (unit : LengthUnit) : unit.size.scale 0 = (.zero : Length Rat) :=
  congrArg Length.mk (mul_zero unit.size.points)

theorem spells_name (unit : LengthUnit) : unit.Spells unit.name.toList := by
  cases unit <;> exact ⟨_, List.mem_cons_self, by decide⟩

/-- The text for so many thousandths of a unit. -/
def thousandths (unit : LengthUnit) (units : Int) : String :=
  if units = 0 then "0" else String.ofList (ofInt 3 units).text ++ unit.name

theorem units_eq_zero {unit : LengthUnit}
    (nearest : NearestEven (length.inUnit unit * 10 ^ 3) units) (zero : length.isZero = true) :
    units = 0 := by
  rw [Length.isZero, beq_iff_eq] at zero
  have ratio : length.inUnit unit * 10 ^ 3 = (0 : Int) := by
    rw [Length.inUnit, Length.ratio, zero]
    simp [Scalar.zero, Scalar.ofNat]
  rw [ratio] at nearest
  exact nearest.eq (.self 0)

theorem text_inUnit {unit : LengthUnit}
    (nearest : NearestEven (length.inUnit unit * 10 ^ 3) units) (something : units ≠ 0) :
    Scalar.text 3 (length.inUnit unit) = String.ofList (ofInt 3 units).text := by
  have sign : decide (length.inUnit unit < 0) = decide (units < 0) := by
    rw [decide_eq_decide, ← nearest.neg_iff something]
    constructor <;> intro negative <;> linarith
  rw [Scalar.text_eq nearest, sign, ofInt]

/-- What is written depends on the number of thousandths alone. -/
theorem format_eq {unit : LengthUnit}
    (nearest : NearestEven (length.inUnit unit * 10 ^ 3) units) :
    unit.format length = unit.thousandths units := by
  by_cases none : units = 0
  · have zeros : ∀ negative, String.ofList (ofUnits negative 3 0).text = "0" ∨
        String.ofList (ofUnits negative 3 0).text = "-0" := by decide +kernel
    have number := Scalar.text_eq nearest
    rw [none, Int.natAbs_zero] at number
    rw [format, thousandths, if_pos none]
    split
    · rfl
    · rw [number]
      exact if_pos (zeros _)
  · have shown := text_inUnit nearest none
    rw [format, thousandths, if_neg fun zero => none (units_eq_zero nearest zero), if_neg none,
      ← shown]
    refine if_neg fun zero => none ?_
    rw [shown] at zero
    exact ofInt_eq_zero zero

theorem distance_le {unit : LengthUnit}
    (nearest : NearestEven (length.inUnit unit * 10 ^ 3) units) :
    |(unit.size.scale ((units : Rat) / 10 ^ 3)).points - length.points| ≤
      unit.size.points / 2000 := by
  have size := unit.size_pos
  have whole : length.points = length.inUnit unit * unit.size.points :=
    (div_mul_cancel₀ length.points size.ne').symm
  have distance : (unit.size.scale ((units : Rat) / 10 ^ 3)).points - length.points =
      -(unit.size.points / 1000 * (length.inUnit unit * 10 ^ 3 - units)) := by
    rw [whole, Length.scale]
    ring
  rw [distance, abs_neg, abs_mul, abs_of_pos (by positivity)]
  calc unit.size.points / 1000 * |length.inUnit unit * 10 ^ 3 - units|
      ≤ unit.size.points / 1000 * (1 / 2) :=
        mul_le_mul_of_nonneg_left nearest.close (by positivity)
    _ = unit.size.points / 2000 := by ring

theorem thousandths_eq_zero {unit : LengthUnit} : unit.thousandths units = "0" ↔ units = 0 := by
  constructor
  · intro zero
    by_contra something
    have name : unit.name.length = 2 := by cases unit <;> rfl
    have long := congrArg String.length zero
    rw [thousandths, if_neg something, String.length_append, name] at long
    have single : "0".length = 1 := rfl
    omega
  · intro none
    exact if_pos none

theorem read_zero : Length.read "0" = .ok (.zero : Length Rat) := by
  have digits : Numeral.Digits ['0'] := by simp [Numeral.Digits]
  have zero : Numeral.DecimalText ([] ++ (['0'] ++ [])) false 0 (0 - (0 : Nat)) :=
    .intro .absent (.intro (.whole (List.cons_ne_nil '0' []) digits) .absent)
  have trimmed : Text.trim "0".toList = ['0'] := by decide
  rw [Length.read, trimmed]
  exact Length.readTrimmed_of_written (.zero zero (by decide +kernel))

/-- What is written is read as what was written. -/
theorem read_thousandths (unit : LengthUnit) (units : Int) :
    Length.read (unit.thousandths units) =
      .ok (unit.size.scale ((units : Rat) / 10 ^ 3) : Length Rat) := by
  by_cases none : units = 0
  · rw [none, Int.cast_zero, zero_div, scale_zero, thousandths, if_pos rfl, read_zero]
  · have numeral := (ofInt 3 units).decimalText
    have solid : ∀ character ∈ (ofInt 3 units).text ++ unit.name.toList,
        Text.isBlank character = false := by
      intro character member
      rcases List.mem_append.mp member with inside | letter
      · exact Length.solid_of_decimalText numeral character inside
      · exact Text.isBlank_of_isAlpha (unit.spells_name.isAlpha.2 character letter)
    have blank : Text.Blank [] := nofun
    have written := Length.Written.units (α := Rat) numeral blank unit.spells_name rfl
    have value : (Scalar.ofDecimal (ofInt 3 units).negative (ofInt 3 units).units
        (0 - (ofInt 3 units).decimals.length) : Rat) = units / 10 ^ 3 :=
      (ofInt 3 units).ofDecimal_eq_value.trans value_ofInt
    rw [List.append_nil, value] at written
    rw [thousandths, if_neg none, Length.read, String.toList_append, String.toList_ofList,
      Text.trim_of_solid solid]
    exact Length.readTrimmed_of_written written

/-- A length is rounded to thousandths of the unit, of which halves go to the even neighbour. What
rounds to zero is written as a bare zero, everything else as the shortest numeral of the rounded
number before the name of the unit. It is read back as the rounded number of units, which is at
most half a thousandth of the unit away from the length, and written the same way again. -/
theorem format_reads_back (unit : LengthUnit) (length : Length Rat) :
    ∃ rounded : Rat,
      (∀ other, RoundsTo 3 (length.points / unit.size.points) other ↔ other = rounded) ∧
      (unit.format length = "0" ↔ rounded = 0) ∧
      (rounded ≠ 0 → ∃ numeral : PlainNumeral,
        unit.format length = String.ofList numeral.text ++ unit.name ∧
          numeral.value = rounded ∧ numeral.Shortest ∧ numeral.Tight ∧
          numeral.decimals.length ≤ 3) ∧
      Length.read (unit.format length) = .ok (unit.size.scale rounded : Length Rat) ∧
      |(unit.size.scale rounded).points - length.points| ≤ unit.size.points / 2000 ∧
      unit.format (unit.size.scale rounded : Length Rat) = unit.format length := by
  rcases NearestEven.exists_nearest (length.inUnit unit * 10 ^ 3) with ⟨units, nearest⟩
  have again : NearestEven ((unit.size.scale ((units : Rat) / 10 ^ 3) : Length Rat).inUnit unit *
      10 ^ 3) units := by
    rw [inUnit_scale, div_mul_cancel₀ _ (by norm_num)]
    exact .self units
  rw [format_eq nearest]
  refine ⟨units / 10 ^ 3, fun other => ?_, ?_, fun something => ?_, read_thousandths unit units,
    distance_le nearest, format_eq again⟩
  · constructor
    · rintro ⟨count, rfl, also⟩
      rw [nearest.eq also]
    · rintro rfl
      exact ⟨units, rfl, nearest⟩
  · rw [thousandths_eq_zero, div_eq_zero_iff, Int.cast_eq_zero]
    norm_num
  · have given : units ≠ 0 := by
      rintro rfl
      simp at something
    exact ⟨ofInt 3 units, if_neg given, value_ofInt, tight_ofInt.shortest, tight_ofInt,
      length_decimals_ofUnits⟩

example : LengthUnit.pt.format (⟨-9 / 2000⟩ : Length Rat) = "-0.004pt" := by decide +kernel

end LengthUnit

end PageSketch
