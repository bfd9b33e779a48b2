import PageSketch.Text.Blank

/-! # Characters

Letters and digits are told by their codes, so they are neither each other nor blank. -/

namespace PageSketch.Text

variable {character : Char}

theorem isAlpha_iff_toNat : character.isAlpha = true ↔
    65 ≤ character.toNat ∧ character.toNat ≤ 90 ∨ 97 ≤ character.toNat ∧ character.toNat ≤ 122 := by
  have told : character.isAlpha =
      (decide (character.val ≥ 'A'.val ∧ character.val ≤ 'Z'.val) ||
        decide (character.val ≥ 'a'.val) && decide (character.val ≤ 'z'.val)) := rfl
  rw [told, Bool.or_eq_true, Bool.and_eq_true, decide_eq_true_eq, decide_eq_true_eq,
    decide_eq_true_eq]
  exact Iff.rfl

theorem toNat_of_isDigit (decimal : character.isDigit = true) :
    48 ≤ character.toNat ∧ character.toNat ≤ 57 :=
  Char.isDigit_iff_toNat.mp decimal

theorem isAlpha_of_toLower (lower : character.toLower.isAlpha = true) :
    character.isAlpha = true := by
  by_cases upper : character.val ≥ 'A'.val ∧ character.val ≤ 'Z'.val
  · exact isAlpha_iff_toNat.mpr (.inl upper)
  · have same : character.toLower = character := dif_neg upper
    rwa [same] at lower

theorem isAlpha_of_isDigit (decimal : character.isDigit = true) : character.isAlpha = false := by
  have codes := toNat_of_isDigit decimal
  rw [Bool.eq_false_iff, ne_eq, isAlpha_iff_toNat]
  omega

/-! ## Blanks -/

theorem isBlank_of_toNat (above : 48 ≤ character.toNat) (below : character.toNat ≤ 122) :
    isBlank character = false := by
  have codes : ∀ code ≤ 122, 48 ≤ code → Unicode.isWhiteSpace code = false := by decide
  exact codes character.toNat below above

theorem isBlank_of_isDigit (decimal : character.isDigit = true) : isBlank character = false := by
  have codes := toNat_of_isDigit decimal
  exact isBlank_of_toNat codes.1 (by omega)

theorem isBlank_of_isAlpha (letter : character.isAlpha = true) : isBlank character = false := by
  have codes := isAlpha_iff_toNat.mp letter
  exact isBlank_of_toNat (by omega) (by omega)

theorem isAlpha_of_isBlank (blank : isBlank character = true) : character.isAlpha = false := by
  cases letter : character.isAlpha with
  | false => rfl
  | true =>
      rw [isBlank_of_isAlpha letter] at blank
      cases blank

end PageSketch.Text
