import Mathlib.Algebra.Order.Field.Rat
import Mathlib.Data.List.Induction
import Mathlib.Tactic.Positivity
import Mathlib.Tactic.Ring
import PageSketch.Decimal.Fixed
import PageSketch.Proofs.NumeralText
import PageSketch.Scalar.Exact
import PageSketch.Text.Blank

/-! # Plain numerals

Numbers are written as numerals without a power of ten. Cutting the zeros off a numeral with a
fixed count of decimals leaves the shortest one of its number. -/

namespace PageSketch

namespace Numeral

open Text (toNat_of_isDigit)

variable {text other : List Char}

/-! ## Rows of digits -/

theorem ofDigitChars_concat (text : List Char) (digit : Char) :
    Nat.ofDigitChars 10 (text ++ [digit]) 0 =
      10 * Nat.ofDigitChars 10 text 0 + (digit.toNat - 48) := by
  rw [Nat.ofDigitChars_append, Nat.ofDigitChars_cons, Nat.ofDigitChars_nil]
  rfl

theorem Digits.value_lt (decimal : Digits text) :
    Nat.ofDigitChars 10 text 0 < 10 ^ text.length := by
  induction text using List.reverseRecOn with
  | nil => decide
  | append_singleton before digit induction =>
      rcases List.forall_mem_append.mp decimal with ⟨first, last⟩
      have inside := induction first
      have bounds := toNat_of_isDigit (last digit List.mem_cons_self)
      rw [ofDigitChars_concat, List.length_append, List.length_singleton, Nat.pow_succ]
      omega

/-- Rows of the same length with the same value are the same. -/
theorem Digits.eq_of_value (decimal : Digits text) (otherDecimal : Digits other)
    (long : text.length = other.length)
    (value : Nat.ofDigitChars 10 text 0 = Nat.ofDigitChars 10 other 0) : text = other := by
  induction text using List.reverseRecOn generalizing other with
  | nil => exact (List.eq_nil_of_length_eq_zero long.symm).symm
  | append_singleton before digit induction =>
      rcases List.eq_nil_or_concat other with rfl | ⟨front, final, rfl⟩
      · simp at long
      · rw [List.concat_eq_append] at *
        rcases List.forall_mem_append.mp decimal with ⟨first, last⟩
        rcases List.forall_mem_append.mp otherDecimal with ⟨otherFirst, otherLast⟩
        have bounds := toNat_of_isDigit (last digit List.mem_cons_self)
        have otherBounds := toNat_of_isDigit (otherLast final List.mem_cons_self)
        rw [ofDigitChars_concat, ofDigitChars_concat] at value
        have sameDigit : digit = final := Char.toNat_inj.mp (by omega)
        have same := induction first otherFirst (by simpa using long) (by omega)
        rw [same, sameDigit]

/-- A row that ends in another digit than zero has no value that ends in zero. -/
theorem Digits.mod_ten_ne_zero (decimal : Digits text) {last : Char}
    (ends : text.getLast? = some last) (something : last ≠ '0') :
    Nat.ofDigitChars 10 text 0 % 10 ≠ 0 := by
  rcases List.getLast?_eq_some_iff.mp ends with ⟨before, rfl⟩
  have bounds := toNat_of_isDigit (decimal last (by simp))
  have positive : last.toNat ≠ 48 := fun zero => something (Char.toNat_inj.mp zero)
  rw [ofDigitChars_concat]
  omega

end Numeral

open Numeral

/-- A decimal numeral without a power of ten: perhaps a minus, digits, and perhaps a point with
more digits behind it. The point may come last, but not first. -/
@[ext]
structure PlainNumeral where
  negative : Bool
  whole : List Char
  /-- The digits behind the point, if there is one. -/
  fraction : Option (List Char)
  nonempty : whole ≠ []
  decimalWhole : Digits whole
  decimalFraction : ∀ digits ∈ fraction, Digits digits

namespace PlainNumeral

/-- The digits behind the point; without a point there are none. -/
def decimals (numeral : PlainNumeral) : List Char := numeral.fraction.getD []

/-- What is written of the fraction. -/
def fractionText (numeral : PlainNumeral) : List Char :=
  match numeral.fraction with
  | none => []
  | some digits => '.' :: digits

def signText (numeral : PlainNumeral) : List Char := if numeral.negative then ['-'] else []

def text (numeral : PlainNumeral) : List Char :=
  numeral.signText ++ (numeral.whole ++ numeral.fractionText)

/-- The number without its sign, in units of the last decimal place. -/
def units (numeral : PlainNumeral) : Nat :=
  Nat.ofDigitChars 10 (numeral.whole ++ numeral.decimals) 0

/-- The number that the numeral stands for. -/
def value (numeral : PlainNumeral) : Rat :=
  let magnitude : Rat := numeral.units / 10 ^ numeral.decimals.length
  if numeral.negative then -magnitude else magnitude

/-- Every other numeral for the same number is longer. -/
def Shortest (numeral : PlainNumeral) : Prop :=
  ∀ other : PlainNumeral, other.value = numeral.value → other ≠ numeral →
    numeral.text.length < other.text.length

/-- Nothing of the numeral can be left out. -/
structure Tight (numeral : PlainNumeral) : Prop where
  /-- No zero comes first, unless it is the only digit before the point. -/
  leading : numeral.whole = Nat.toDigits 10 (Nat.ofDigitChars 10 numeral.whole 0)
  /-- Neither a zero nor the point comes last behind a point. -/
  trailing : ∀ digits ∈ numeral.fraction, ∃ last ∈ digits.getLast?, last ≠ '0'
  /-- Zero has no sign. -/
  sign : numeral.negative = true → numeral.value ≠ 0

variable {numeral other : PlainNumeral}

theorem digits_decimals (numeral : PlainNumeral) : Digits numeral.decimals := by
  rw [decimals]
  cases given : numeral.fraction with
  | none => exact nofun
  | some digits => exact numeral.decimalFraction digits given

/-- A plain numeral is written as decimal numerals are. -/
theorem decimalText (numeral : PlainNumeral) :
    DecimalText numeral.text numeral.negative numeral.units (0 - numeral.decimals.length) := by
  have signed : SignText numeral.signText numeral.negative := by
    rw [signText]
    cases numeral.negative with
    | false => exact .absent
    | true => exact .minus
  have mantissa : MantissaText (numeral.whole ++ numeral.fractionText) numeral.units
      numeral.decimals.length := by
    rw [fractionText, units, decimals]
    cases given : numeral.fraction with
    | none =>
        rw [List.append_nil, Option.getD_none, List.append_nil]
        exact .whole numeral.nonempty numeral.decimalWhole
    | some digits =>
        exact .pointed (.inl numeral.nonempty) numeral.decimalWhole
          (numeral.decimalFraction digits given)
  have unsigned := UnsignedText.intro mantissa .absent
  rw [List.append_nil] at unsigned
  exact .intro signed unsigned

theorem power_of_decimals (count : Nat) : power 10 (0 - count) = 1 / (10 : Rat) ^ count := by
  have size : ((0 : Int) - count).natAbs = count := by omega
  rw [power, size]
  split
  · rw [Rat.mkRat_eq_div, Nat.pow_eq]
    push_cast
    rfl
  · next whole =>
      have none : count = 0 := by omega
      rw [none]
      norm_num

theorem ofDecimal_eq_value (numeral : PlainNumeral) :
    Scalar.Exact.ofDecimal numeral.negative numeral.units (0 - numeral.decimals.length) =
      numeral.value := by
  rw [Scalar.Exact.ofDecimal, value, power_of_decimals, mul_one_div]

/-- Zero is the only number that is written as a single zero. -/
theorem value_of_text (zero : numeral.text ∈ ["0".toList, "-0".toList]) : numeral.value = 0 := by
  have zeros : ∀ text ∈ ["0".toList, "-0".toList],
      ∃ negative, ofChars? text = some (.decimal negative 0 0) := by
    simp only [List.forall_mem_cons]
    exact ⟨⟨false, rfl⟩, ⟨true, rfl⟩, nofun⟩
  rcases zeros _ zero with ⟨negative, read⟩
  have same := (ofChars?_eq_some.mpr (.decimal numeral.decimalText)).symm.trans read
  have none : numeral.units = 0 := (Numeral.decimal.inj (Option.some.inj same)).2.1
  rw [value, none]
  simp

/-! ## The shortest numeral -/

theorem units_eq (numeral : PlainNumeral) :
    numeral.units = 10 ^ numeral.decimals.length * Nat.ofDigitChars 10 numeral.whole 0 +
      Nat.ofDigitChars 10 numeral.decimals 0 := by
  rw [units, Nat.ofDigitChars_append, Nat.ofDigitChars_eq_ofDigitChars_zero]

theorem abs_value (numeral : PlainNumeral) :
    |numeral.value| = numeral.units / 10 ^ numeral.decimals.length := by
  have positive : (0 : Rat) ≤ numeral.units / 10 ^ numeral.decimals.length := by positivity
  rw [value]
  split
  · rw [abs_neg, abs_of_nonneg positive]
  · rw [abs_of_nonneg positive]

/-- Numerals of the same number agree in front of the point, and behind it up to zeros. -/
theorem digits_of_value (same : other.value = numeral.value) :
    Nat.ofDigitChars 10 other.whole 0 = Nat.ofDigitChars 10 numeral.whole 0 ∧
      Nat.ofDigitChars 10 other.decimals 0 * 10 ^ numeral.decimals.length =
        Nat.ofDigitChars 10 numeral.decimals 0 * 10 ^ other.decimals.length := by
  have magnitudes := congrArg abs same
  rw [abs_value, abs_value, div_eq_div_iff (by positivity) (by positivity)] at magnitudes
  have equal : other.units * 10 ^ numeral.decimals.length =
      numeral.units * 10 ^ other.decimals.length := by exact_mod_cast magnitudes
  have whole : ∀ some : PlainNumeral,
      some.units / 10 ^ some.decimals.length = Nat.ofDigitChars 10 some.whole 0 := by
    intro some
    rw [units_eq, Nat.mul_add_div (by positivity), Nat.div_eq_of_lt some.digits_decimals.value_lt,
      Nat.add_zero]
  have front : Nat.ofDigitChars 10 other.whole 0 = Nat.ofDigitChars 10 numeral.whole 0 := by
    calc Nat.ofDigitChars 10 other.whole 0
        = other.units * 10 ^ numeral.decimals.length /
            (10 ^ other.decimals.length * 10 ^ numeral.decimals.length) := by
          rw [Nat.mul_div_mul_right _ _ (by positivity), whole]
      _ = numeral.units * 10 ^ other.decimals.length /
            (10 ^ numeral.decimals.length * 10 ^ other.decimals.length) := by
          rw [equal, Nat.mul_comm (10 ^ other.decimals.length)]
      _ = Nat.ofDigitChars 10 numeral.whole 0 := by
          rw [Nat.mul_div_mul_right _ _ (by positivity), whole]
  refine ⟨front, ?_⟩
  have shifted : 10 ^ other.decimals.length * Nat.ofDigitChars 10 numeral.whole 0 *
      10 ^ numeral.decimals.length = 10 ^ numeral.decimals.length *
        Nat.ofDigitChars 10 numeral.whole 0 * 10 ^ other.decimals.length := by ring
  rw [units_eq, units_eq, front, Nat.add_mul, Nat.add_mul, shifted] at equal
  exact Nat.add_left_cancel equal

/-- A negative numeral that is not zero shares its number with negative ones only. -/
theorem negative_of_value (same : other.value = numeral.value) (minus : numeral.negative = true)
    (something : numeral.value ≠ 0) : other.negative = true := by
  have below : ∀ some : PlainNumeral, some.negative = true → some.value ≤ 0 := by
    intro some negative
    rw [value, negative, if_pos rfl, neg_nonpos]
    positivity
  cases plus : other.negative with
  | true => rfl
  | false =>
      have above : 0 ≤ other.value := by
        rw [value, plus, if_neg (by decide)]
        positivity
      exact absurd (le_antisymm (below numeral minus) (same ▸ above)) something

theorem Tight.length_whole_le (tight : numeral.Tight) (same : other.value = numeral.value) :
    numeral.whole.length ≤ other.whole.length := by
  have bound := other.decimalWhole.value_lt
  rw [(digits_of_value same).1] at bound
  rw [tight.leading]
  exact (Nat.length_toDigits_le_iff (by decide) (List.length_pos_iff.mpr other.nonempty)).mpr bound

theorem Tight.length_decimals_le (tight : numeral.Tight) (same : other.value = numeral.value) :
    numeral.decimals.length ≤ other.decimals.length := by
  by_contra shorter
  rcases Nat.exists_eq_add_of_lt (Nat.lt_of_not_le shorter) with ⟨more, long⟩
  have behind := (digits_of_value same).2
  -- With fewer decimals in the other numeral, the last digit of this one would be zero.
  have tens : Nat.ofDigitChars 10 numeral.decimals 0 =
      10 * (Nat.ofDigitChars 10 other.decimals 0 * 10 ^ more) := by
    apply Nat.eq_of_mul_eq_mul_right (Nat.pow_pos (by decide : 0 < 10))
    rw [← behind, long]
    ring
  rcases given : numeral.fraction with _ | digits
  · simp [decimals, given] at shorter
  · rcases tight.trailing digits given with ⟨last, ends, something⟩
    have same : numeral.decimals = digits := by rw [decimals, given, Option.getD_some]
    rw [same] at tens
    exact (numeral.decimalFraction digits given).mod_ten_ne_zero ends something (by omega)

theorem length_signText (numeral : PlainNumeral) :
    numeral.signText.length = if numeral.negative then 1 else 0 := by
  rw [signText]
  cases numeral.negative <;> rfl

theorem length_fractionText (numeral : PlainNumeral) :
    numeral.fractionText.length =
      if numeral.fraction.isSome then numeral.decimals.length + 1 else 0 := by
  rw [fractionText, decimals]
  cases numeral.fraction <;> rfl

theorem fraction_eq (numeral : PlainNumeral) :
    numeral.fraction = if numeral.fraction.isSome then some numeral.decimals else none := by
  rw [decimals]
  cases numeral.fraction <;> rfl

/-- Numerals of the same number whose parts are as long as each other are the same. -/
theorem eq_of_length (same : other.value = numeral.value)
    (sign : other.signText.length = numeral.signText.length)
    (whole : other.whole.length = numeral.whole.length)
    (fraction : other.fractionText.length = numeral.fractionText.length) : other = numeral := by
  rcases digits_of_value same with ⟨front, behind⟩
  rw [length_signText, length_signText] at sign
  rw [length_fractionText, length_fractionText] at fraction
  have given : other.fraction.isSome = numeral.fraction.isSome := by
    cases first : other.fraction.isSome <;> cases second : numeral.fraction.isSome <;>
      simp [first, second] at fraction ⊢
  have long : other.decimals.length = numeral.decimals.length := by
    cases second : numeral.fraction.isSome with
    | true => simpa [given, second] using fraction
    | false =>
        have none : other.fraction.isSome = false := given.trans second
        rw [Option.isSome_eq_false_iff, Option.isNone_iff_eq_none] at none second
        rw [decimals, decimals, none, second]
  rw [long] at behind
  have decimals := other.digits_decimals.eq_of_value numeral.digits_decimals long
    (Nat.eq_of_mul_eq_mul_right (by positivity) behind)
  apply PlainNumeral.ext
  · cases first : other.negative <;> cases second : numeral.negative <;>
      simp [first, second] at sign ⊢
  · exact other.decimalWhole.eq_of_value numeral.decimalWhole whole front
  · rw [fraction_eq other, fraction_eq numeral, given, decimals]

theorem Tight.length_signText_le (tight : numeral.Tight) (same : other.value = numeral.value) :
    numeral.signText.length ≤ other.signText.length := by
  rw [length_signText, length_signText]
  cases minus : numeral.negative with
  | false => simp
  | true => rw [negative_of_value same minus (tight.sign minus)]

theorem Tight.length_fractionText_le (tight : numeral.Tight) (same : other.value = numeral.value) :
    numeral.fractionText.length ≤ other.fractionText.length := by
  have long := tight.length_decimals_le same
  rw [length_fractionText, length_fractionText]
  cases given : numeral.fraction with
  | none => simp
  | some digits =>
      rcases tight.trailing digits given with ⟨last, ends, _⟩
      have nonempty : digits ≠ [] := by
        rintro rfl
        cases ends
      have positive : 0 < numeral.decimals.length := by
        rw [decimals, given]
        exact List.length_pos_iff.mpr nonempty
      have otherGiven : other.fraction.isSome = true := by
        by_contra none
        rw [Bool.not_eq_true, Option.isSome_eq_false_iff, Option.isNone_iff_eq_none] at none
        have empty : other.decimals.length = 0 := by rw [decimals, none]; rfl
        omega
      rw [otherGiven]
      simpa using long

theorem Tight.shortest (tight : numeral.Tight) : numeral.Shortest := by
  intro other same different
  have sign := tight.length_signText_le same
  have whole := tight.length_whole_le same
  have fraction := tight.length_fractionText_le same
  by_contra shorter
  simp only [text, List.length_append] at shorter
  exact different (eq_of_length same (by omega) (by omega) (by omega))

/-! ## Numerals for units of a decimal place -/

section

open Decimal Text

variable {places units : Nat} {negative : Bool}

theorem digits_toDigits (units : Nat) : Digits (Nat.toDigits 10 units) :=
  fun _ => Nat.isDigit_of_mem_toDigits (by decide) (by decide)

theorem digits_lastDigits (places units : Nat) : Digits (lastDigits places units) := by
  intro digit member
  rw [lastDigits] at member
  rcases List.mem_append.mp member with zero | other
  · rw [List.eq_of_mem_replicate zero]
    rfl
  · have taken := List.mem_of_mem_take (List.mem_reverse.mp other)
    exact digits_toDigits units digit (List.mem_reverse.mp taken)

theorem lastDigits_of_lt (small : units < 10 ^ places) :
    (lastDigits places units).length = places ∧
      Nat.ofDigitChars 10 (lastDigits places units) 0 = units := by
  cases places with
  | zero =>
      rw [Nat.lt_one_iff.mp small]
      exact ⟨rfl, rfl⟩
  | succ count =>
      have short : (Nat.toDigits 10 units).length ≤ count + 1 :=
        (Nat.length_toDigits_le_iff (by decide) count.succ_pos).mpr small
      have all : ((Nat.toDigits 10 units).reverse.take (count + 1)).reverse =
          Nat.toDigits 10 units := by
        rw [List.take_of_length_le (by rwa [List.length_reverse]), List.reverse_reverse]
      rw [lastDigits, all, List.length_append, List.length_replicate, Nat.ofDigitChars_append,
        Nat.ofDigitChars_replicate_zero, Nat.mul_zero, Nat.ofDigitChars_ten_toDigits]
      exact ⟨Nat.sub_add_cancel short, rfl⟩

/-- The decimals that are left when the zeros at their end are cut off. -/
def keptDecimals (places units : Nat) : List Char :=
  dropEndWhile (· = '0') (lastDigits places (units % 10 ^ places))

/-- Only zeros are cut off. -/
theorem exists_zeros (places units : Nat) : ∃ zeros,
    lastDigits places (units % 10 ^ places) =
      keptDecimals places units ++ List.replicate zeros '0' := by
  refine ⟨(takeEndWhile (· = '0') (lastDigits places (units % 10 ^ places))).length, ?_⟩
  rw [← List.eq_replicate_of_mem, keptDecimals, dropEndWhile_append_takeEndWhile]
  intro digit member
  simpa using List.mem_takeWhile_imp (List.mem_reverse.mp member)

theorem last_keptDecimals : ∀ last ∈ (keptDecimals places units).getLast?, last ≠ '0' := by
  intro last ends zero
  rw [keptDecimals, dropEndWhile, List.getLast?_reverse] at ends
  have stopped := List.head?_dropWhile_not (· = '0')
    (lastDigits places (units % 10 ^ places)).reverse
  rw [Option.mem_def.mp ends] at stopped
  simp [zero] at stopped

/-- The point goes too if all the decimals behind it are cut off. -/
theorem trimDecimals_append (whole : List Char) {fraction : List Char} (decimal : Digits fraction) :
    trimDecimals (whole ++ '.' :: fraction) =
      whole ++ (if dropEndWhile (· = '0') fraction = [] then []
        else '.' :: dropEndWhile (· = '0') fraction) := by
  have reversed : (whole ++ '.' :: fraction).reverse =
      fraction.reverse ++ '.' :: whole.reverse := by simp
  rw [trimDecimals, dropEndWhile, reversed, List.dropWhile_append]
  cases kept : fraction.reverse.dropWhile (· = '0') with
  | nil => simp
  | cons last before =>
      have inside : last ∈ fraction :=
        List.mem_reverse.mp ((List.dropWhile_sublist _).mem (kept ▸ List.mem_cons_self))
      have noPoint : last ≠ '.' := by
        rintro rfl
        cases decimal _ inside
      simp [noPoint]

/-- The numeral for so many units of the last of `places` decimals. -/
def ofUnits (negative : Bool) (places units : Nat) : PlainNumeral where
  negative
  whole := Nat.toDigits 10 (units / 10 ^ places)
  fraction := if keptDecimals places units = [] then none else some (keptDecimals places units)
  nonempty := Nat.toDigits_ne_nil
  decimalWhole := digits_toDigits _
  decimalFraction digits given := by
    rcases exists_zeros places units with ⟨zeros, split⟩
    have all := digits_lastDigits places (units % 10 ^ places)
    rw [split] at all
    split at given <;> cases given
    exact (List.forall_mem_append.mp all).1

theorem decimals_ofUnits :
    (ofUnits negative places units).decimals = keptDecimals places units := by
  rw [decimals, ofUnits]
  dsimp only
  split
  · next none => exact none.symm
  · rfl

theorem text_ofUnits : (ofUnits negative places units).text =
    (if negative then ['-'] else []) ++ trimDecimals (fixedUnits places units) := by
  rw [fixedUnits, Nat.pow_eq, trimDecimals_append _ (digits_lastDigits _ _), text, signText,
    fractionText, ofUnits]
  change _ ++ (_ ++ _) = _ ++ (_ ++ if keptDecimals places units = [] then [] else _)
  by_cases none : keptDecimals places units = []
  · simp only [if_pos none]
  · simp only [if_neg none]
    rfl

theorem units_ofUnits (negative : Bool) (places units : Nat) : ∃ zeros,
    (ofUnits negative places units).decimals.length + zeros = places ∧
      10 ^ zeros * (ofUnits negative places units).units = units := by
  rcases exists_zeros places units with ⟨zeros, split⟩
  have small : units % 10 ^ places < 10 ^ places := Nat.mod_lt units (by positivity)
  rcases lastDigits_of_lt small with ⟨long, digits⟩
  have all : Nat.ofDigitChars 10
      (Nat.toDigits 10 (units / 10 ^ places) ++ lastDigits places (units % 10 ^ places)) 0 =
        units := by
    rw [Nat.ofDigitChars_append, Nat.ofDigitChars_eq_ofDigitChars_zero, long, digits,
      Nat.ofDigitChars_ten_toDigits, Nat.div_add_mod]
  rw [split, ← List.append_assoc, Nat.ofDigitChars_append, Nat.ofDigitChars_replicate_zero] at all
  rw [split, List.length_append, List.length_replicate] at long
  refine ⟨zeros, ?_, ?_⟩
  · rw [decimals_ofUnits, long]
  · rw [PlainNumeral.units, decimals_ofUnits]
    exact all

theorem length_decimals_ofUnits : (ofUnits negative places units).decimals.length ≤ places := by
  rcases units_ofUnits negative places units with ⟨zeros, long, _⟩
  exact Nat.le.intro long

theorem value_ofUnits : (ofUnits negative places units).value =
    if negative then -(units / 10 ^ places : Rat) else units / 10 ^ places := by
  rcases units_ofUnits negative places units with ⟨zeros, long, scaled⟩
  have magnitude : ((ofUnits negative places units).units : Rat) /
      10 ^ (ofUnits negative places units).decimals.length = units / 10 ^ places := by
    have power : (10 : Rat) ^ places =
        10 ^ (ofUnits negative places units).decimals.length * 10 ^ zeros := by
      rw [← pow_add, long]
    have whole : (units : Rat) = 10 ^ zeros * (ofUnits negative places units).units := by
      exact_mod_cast scaled.symm
    rw [div_eq_div_iff (by positivity) (by positivity), power, whole]
    ring
  rw [value, magnitude]
  rfl

theorem tight_ofUnits (something : negative = true → units ≠ 0) :
    (ofUnits negative places units).Tight where
  leading := by
    rw [ofUnits]
    dsimp only
    rw [Nat.ofDigitChars_ten_toDigits]
  trailing digits given := by
    rw [ofUnits] at given
    dsimp only at given
    split at given <;> cases given
    next nonempty =>
    exact ⟨_, List.getLast?_eq_some_getLast nonempty,
      last_keptDecimals _ (List.getLast?_eq_some_getLast nonempty)⟩
  sign minus := by
    have minus : negative = true := minus
    have positive : (units : Rat) ≠ 0 := by exact_mod_cast something minus
    have power : (10 ^ places : Rat) ≠ 0 := by positivity
    rw [value_ofUnits, if_pos minus]
    exact neg_ne_zero.mpr (div_ne_zero positive power)

end

end PlainNumeral

end PageSketch
