import PageSketch.Proofs.LengthGrammar
import PageSketch.Proofs.SpecFormats
import PageSketch.Proofs.StoredNumbers
import PageSketch.Spec.Length

/-! # The forms of lengths

A length in a configuration is written as text or as an object with its unit. Both forms of a
finite number of units mean the same length, as long as that is finite. One that is not is only
refused as text. -/

namespace PageSketch

/-! ## Products of binary numbers -/

namespace Scalar.Binary

open Float.Model Float.Model.UnpackedFloat

theorem exists_limited_mul {a b : UnpackedFloat} {limitA limitB : Int}
    (limitedA : Limited limitA a) (limitedB : Limited limitB b) :
    ∃ limit, Limited limit (UnpackedFloat.mul Format.binary64 a b) := by
  cases limitedA with
  | zero => cases limitedB <;> exact ⟨0, .zero⟩
  | @finite signA m d positiveM lowM =>
      cases limitedB with
      | zero => exact ⟨0, .zero⟩
      | @finite signB n e positiveN lowN =>
          change ∃ limit, Limited limit (roundWithAccuracy Format.binary64 (signA * signB) (m * n)
            (d + e) .exact)
          exact ⟨_, limited_roundWithAccuracy (m * n).lt_two_pow_self Int.le_natAbs
            (Int.natCast_nonneg (d + e).natAbs)⟩

theorem unpack_packComponents_ne {sign : Sign} {exponent : BitVec 11} {mantissa : BitVec 52}
    (ordinary : exponent ≠ -1#11) :
    UnpackedFloat.unpack Format.binary64 (packComponents Format.binary64 sign exponent mantissa) ≠
      .notANumber := by
  delta UnpackedFloat.unpack
  dsimp only
  rw [unpackExponent_packComponents, if_neg ordinary]
  by_cases zero : exponent = 0#11
  · rw [if_pos zero]
    by_cases whole : mantissa = 0#52
    · rw [dif_pos (unpackMantissa_packComponents.trans whole)]
      exact nofun
    · rw [dif_neg fun same => whole (unpackMantissa_packComponents.symm.trans same)]
      exact nofun
  · rw [if_neg zero]
    exact nofun

/-- A number whose exponent is too large is stored as infinity, and all others as numbers. -/
theorem unpack_pack_ne_notANumber {number : UnpackedFloat} {limit : Int}
    (limited : Limited limit number) : (Float.Model.pack number).unpack ≠ .notANumber := by
  cases limited with
  | @zero sign => cases sign <;> exact nofun
  | @finite sign mantissa exponent positive low =>
      change UnpackedFloat.unpack Format.binary64
        (UnpackedFloat.pack Format.binary64 (.finite sign mantissa exponent positive)) ≠ _
      delta UnpackedFloat.pack
      dsimp only
      split
      · cases sign <;> exact nofun
      · next small =>
          split
          · refine unpack_packComponents_ne fun special => ?_
            have all := congrArg BitVec.toNat special
            have ones : (-1#11).toNat = 2047 := rfl
            rw [BitVec.toNat_ofNat, Nat.mod_eq_of_lt (by omega), ones] at all
            omega
          · exact unpack_packComponents_ne (by decide)

/-- The product of finite numbers is finite or infinite. -/
theorem reading_mul {a b : Float} (finiteA : isFinite a = true) (finiteB : isFinite b = true) :
    isFinite (a * b) = true ∨ ∃ negative, Scalar.reading (a * b) = .infinite negative := by
  rcases exists_limited_mul (isFinite_iff_canonical.mp finiteA).2
    (isFinite_iff_canonical.mp finiteB).2 with ⟨limit, limited⟩
  have defined : (a * b).toModel.unpack ≠ .notANumber := unpack_pack_ne_notANumber limited
  have known : Scalar.reading (a * b) = reading (a * b) := rfl
  rw [isFinite, known, reading]
  generalize (a * b).toModel.unpack = product at defined ⊢
  cases product with
  | notANumber => exact absurd rfl defined
  | infinity sign => exact .inr ⟨_, rfl⟩
  | zero sign => exact .inl rfl
  | finite sign mantissa exponent positive => exact .inl rfl

end Scalar.Binary

/-! ## Both forms -/

namespace LengthSpec

open Text Numeral

variable {spelling : String} {unit : LengthUnit} {number : List Char} {negative : Bool}
  {digits : Nat} {exponent : Int}

section

variable {α : Type} [Scalar α]

/-- The text with a numeral and the spelling of a unit behind it. -/
def inText (number : List Char) (spelling : String) : LengthSpec α :=
  .text (String.ofList number ++ spelling)

/-- The object with a number for a unit. -/
def inUnits (value : α) (spelling : String) : LengthSpec α := .units (.single spelling value)

theorem read_single {map : UnitMap α} {value : α} (single : map.entries = [(spelling, value)]) :
    (LengthSpec.units map).read =
      (LengthUnit.read spelling).map fun unit => unit.size.scale value := by
  rw [read, single]

theorem read_inUnits (meant : LengthUnit.ofText? spelling = some unit) (value : α) :
    (inUnits value spelling).read = .ok (unit.size.scale value) := by
  rw [inUnits, read_single rfl, LengthUnit.read, meant]
  rfl

theorem read_inText (meant : LengthUnit.ofText? spelling = some unit)
    (numeral : DecimalText number negative digits exponent) :
    ∃ trimmed, (inText number spelling : LengthSpec α).read =
      if (unit.size.scale (Scalar.ofDecimal negative digits exponent) : Length α).isFinite then
        .ok (unit.size.scale (Scalar.ofDecimal negative digits exponent))
      else .error (.outOfRange trimmed) := by
  have spelled : unit.Spells (trim spelling.toList) := LengthUnit.ofWord?_eq_some.mp meant
  rcases padded_trim spelling.toList with ⟨before, after, blankBefore, blankAfter, whole⟩
  generalize trim spelling.toList = word at spelled whole
  have padded : Padded (number ++ before ++ word) (String.ofList number ++ spelling).toList := by
    refine ⟨[], after, nofun, blankAfter, ?_⟩
    rw [String.toList_append, String.toList_ofList, whole]
    simp
  have trimmed : trim (number ++ before ++ word) = number ++ before ++ word := by
    rcases numeral.last with ⟨final, ends, _⟩
    have nonempty : number ≠ [] := by
      rintro rfl
      cases ends
    apply trim_of_ends
    · intro first head
      rw [List.append_assoc, List.head?_append_of_ne_nil _ nonempty] at head
      exact Length.solid_of_decimalText numeral first (List.mem_of_head? head)
    · intro last ends
      rw [List.getLast?_append_of_ne_nil _ spelled.isAlpha.1] at ends
      exact isBlank_of_isAlpha (spelled.isAlpha.2 last (List.mem_of_getLast? ends))
  refine ⟨String.ofList (number ++ before ++ word), ?_⟩
  rw [inText, read, Length.read, trim_of_padded padded, trimmed,
    Length.readTrimmed_units numeral blankBefore spelled]

theorem isFinite_of_read [Scalar.Wholes α] {written : String} {length : Length α}
    (read : Length.read written = .ok length) : length.isFinite = true := by
  have text := (Length.readTrimmed_eq_ok trim_trim).mp read
  generalize trim written.toList = trimmed at text
  cases text with
  | units _ _ _ finite => exact finite
  | zero => exact Scalar.Wholes.isFinite_ofNat (by decide)

end

/-! ## Lengths that are not finite -/

theorem isFinite_or_infinite_scale (unit : LengthUnit) {value : Float}
    (finite : Scalar.isFinite value = true) :
    (unit.size.scale value).isFinite = true ∨
      ∃ negative, Scalar.reading (unit.size.scale value).points = .infinite negative := by
  have size : Scalar.isFinite (unit.size : Length Float).points = true := by
    cases unit <;> decide +kernel
  exact Scalar.Binary.reading_mul size finite

/-- An object with a finite number, and its length, which is infinite. -/
inductive Overflows : LengthSpec Float → Length Float → Prop
  | intro {value : Float} {spelling : String} {unit : LengthUnit} {below : Bool}
      (meant : LengthUnit.ofText? spelling = some unit) (finite : Scalar.isFinite value = true)
      (infinite : Scalar.reading (unit.size.scale value).points = .infinite below) :
      Overflows (inUnits value spelling) (unit.size.scale value)

/-- Only an object with a number that is too large for its unit is read as a length that is not
finite. -/
theorem isFinite_or_overflows {spec : LengthSpec Float} {length : Length Float}
    (finite : spec.IsFinite) (read : spec.read = .ok length) :
    length.isFinite = true ∨ Overflows spec length := by
  cases spec with
  | text written => exact .inl (isFinite_of_read read)
  | units map =>
      rcases map with ⟨entries, increasing⟩
      match entries with
      | [] =>
          cases read
          exact .inl rfl
      | [(spelling, value)] =>
          have number : Scalar.isFinite value = true := finite (spelling, value) List.mem_cons_self
          rw [read_single rfl, LengthUnit.read] at read
          cases meant : LengthUnit.ofText? spelling with
          | none =>
              rw [meant] at read
              cases read
          | some unit =>
              rw [meant] at read
              cases read
              rcases isFinite_or_infinite_scale unit number with small | ⟨below, infinite⟩
              · exact .inl small
              · exact .inr (.intro meant number infinite)
      | _ :: _ :: _ => cases read

/-- Both forms of a finite number of units are read as the same length exactly if that length is
finite. Otherwise the text is refused as out of range, while the object is read as an infinite
length. No other configuration in a JSON text is read as a length that is not finite. -/
theorem forms_agree_iff_finite {value : Float} (meant : LengthUnit.ofText? spelling = some unit)
    (numeral : DecimalText number negative digits exponent)
    (denoted : Scalar.ofDecimal negative digits exponent = value)
    (finite : Scalar.isFinite value = true) :
    (inUnits value spelling).read = .ok (unit.size.scale value) ∧
      ((inText number spelling).read = (inUnits value spelling).read ↔
        (unit.size.scale value).isFinite = true) ∧
      ((unit.size.scale value).isFinite = false →
        Overflows (inUnits value spelling) (unit.size.scale value) ∧
          ∃ trimmed, (inText number spelling : LengthSpec Float).read =
            .error (.outOfRange trimmed)) ∧
      ∀ (source : String) (json : Json Float) (spec : LengthSpec Float) (length : Length Float),
        Json.ofString? source = some json → decode? json = some spec → spec.read = .ok length →
          length.isFinite = true ∨ Overflows spec length := by
  rcases read_inText (α := Float) meant numeral with ⟨trimmed, read⟩
  rw [denoted] at read
  rw [read, read_inUnits meant]
  refine ⟨rfl, ?_, fun large => ⟨?_, trimmed, ?_⟩, ?_⟩
  · cases (unit.size.scale value).isFinite <;> simp
  · rcases isFinite_or_infinite_scale unit finite with small | ⟨below, infinite⟩
    · rw [large] at small
      cases small
    · exact .intro meant finite infinite
  · rw [large, if_neg Bool.false_ne_true]
  · intro source json spec length parsed decoded read
    exact isFinite_or_overflows
      (LengthSpec.format.fine (Json.isFinite_of_ofString? parsed) decoded) read

/-- Two and a half inches are the same length in both forms. -/
theorem forms_agree_iff_finite_inches :
    LengthUnit.ofText? " Inch" = some .inch ∧ DecimalText "2.5".toList false 25 (-1) ∧
      Scalar.isFinite (Scalar.ofDecimal false 25 (-1) : Float) = true ∧
      (inText "2.5".toList " Inch").read =
        (inUnits (Scalar.ofDecimal false 25 (-1) : Float) " Inch").read := by
  have meant : LengthUnit.ofText? " Inch" = some .inch := by decide +kernel
  have numeral : DecimalText "2.5".toList false 25 (-1) := by
    have read : ofChars? "2.5".toList = some (.decimal false 25 (-1)) := by decide +kernel
    rcases (ofChars?_eq_some.mp read).exists_decimalText trivial with ⟨_, _, _, same, numeral⟩
    cases same
    exact numeral
  have finite : Scalar.isFinite (Scalar.ofDecimal false 25 (-1) : Float) = true := by
    decide +kernel
  have forms := forms_agree_iff_finite meant numeral rfl finite
  exact ⟨meant, numeral, finite, forms.2.1.mpr (by decide +kernel)⟩

/-- So many inches are a finite number but not a finite length. -/
theorem forms_agree_fails_overflow :
    ∃ value : Float, Scalar.ofDecimal false 1 308 = value ∧ Scalar.isFinite value = true ∧
      LengthUnit.ofText? "in" = some .inch ∧
      (inText "1e308".toList "in" : LengthSpec Float).read =
        .error (.outOfRange "1e308in") ∧
      (Json.ofString? "\x7b\"in\": 1e308\x7d").bind decode? = some (inUnits value "in") ∧
      (inUnits value "in").read = .ok (LengthUnit.inch.size.scale value) ∧
      (LengthUnit.inch.size.scale value).isFinite = false := by
  refine ⟨_, rfl, ?_, ?_, ?_, ?_, ?_, ?_⟩
  · decide +kernel
  · decide +kernel
  · decide +kernel
  · decide +kernel
  · decide +kernel
  · decide +kernel

end LengthSpec

end PageSketch
