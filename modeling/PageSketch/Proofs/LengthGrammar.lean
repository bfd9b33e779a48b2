import PageSketch.Geometry.LengthText
import PageSketch.Proofs.Characters
import PageSketch.Proofs.NumeralText
import PageSketch.Proofs.Outcomes
import PageSketch.Proofs.TrimmedText

/-! # The grammar of lengths

A length is read exactly if its text, without the blanks around it, is a decimal numeral, perhaps
blanks, and a word for a unit, or if it is a numeral for zero. All other texts are refused, and
what they are refused for is told by the letters at their end and by what stands before them. -/

namespace PageSketch

/-! ## Words for units -/

namespace LengthUnit

/-- The words for a unit, in lower case. -/
def words : LengthUnit → List String
  | .pt => ["pt"]
  | .mm => ["mm"]
  | .cm => ["cm"]
  | .inch => ["in", "inch"]

/-- The letters are a word for the unit, in any mixture of upper and lower case. -/
def Spells (unit : LengthUnit) (letters : List Char) : Prop :=
  ∃ word ∈ unit.words, letters.map Char.toLower = word.toList

variable {unit : LengthUnit} {letters : List Char}

theorem ofWord?_eq_some : ofWord? letters = some unit ↔ unit.Spells letters := by
  have spelled : ∀ word : String, String.ofList (letters.map Char.toLower) = word ↔
      letters.map Char.toLower = word.toList := fun word => by
    rw [← String.toList_inj, String.toList_ofList]
  rw [ofWord?, Spells]
  constructor
  · intro read
    split at read
    case h_6 => cases read
    all_goals
      next equal =>
        cases read
        exact ⟨_, by simp [words], (spelled _).mp equal⟩
  · rintro ⟨word, listed, equal⟩
    rw [← spelled] at equal
    rw [equal]
    cases unit <;> simp only [words, List.mem_cons, List.not_mem_nil, or_false] at listed
    case inch => rcases listed with rfl | rfl <;> rfl
    all_goals
      subst listed
      rfl

/-- A word for a unit consists of letters. -/
theorem Spells.isAlpha (spelled : unit.Spells letters) :
    letters ≠ [] ∧ ∀ letter ∈ letters, letter.isAlpha = true := by
  have each : ∀ word ∈ unit.words, word.toList ≠ [] ∧ word.toList.all Char.isAlpha = true := by
    cases unit <;> decide
  rcases spelled with ⟨word, listed, equal⟩
  have plain := each word listed
  rw [← equal, ne_eq, List.map_eq_nil_iff, List.all_eq_true, List.forall_mem_map] at plain
  exact ⟨plain.1, fun letter member => Text.isAlpha_of_toLower (plain.2 letter member)⟩

end LengthUnit

namespace Length

open Text Numeral

/-! ## Letters at the end -/

/-- A text as the letters at its end and what stands before them. -/
structure Parts (text rest letters : List Char) : Prop where
  whole : text = rest ++ letters
  letters : ∀ letter ∈ letters, letter.isAlpha = true
  longest : ∀ last ∈ rest.getLast?, last.isAlpha = false

variable {text rest letters number blanks : List Char}

theorem parts_self (text : List Char) :
    Parts text (dropEndWhile isUnitLetter text) (takeEndWhile isUnitLetter text) where
  whole := (dropEndWhile_append_takeEndWhile isUnitLetter text).symm
  letters letter member := List.mem_takeWhile_imp (List.mem_reverse.mp member)
  longest last ends := by
    rw [dropEndWhile, List.getLast?_reverse] at ends
    have stopped := List.head?_dropWhile_not isUnitLetter text.reverse
    rwa [Option.mem_def.mp ends] at stopped

/-- There is only one such way to split a text. -/
theorem Parts.eq (parts : Parts text rest letters) :
    dropEndWhile isUnitLetter text = rest ∧ takeEndWhile isUnitLetter text = letters := by
  rcases parts with ⟨rfl, inside, longest⟩
  have reversed : ∀ letter ∈ letters.reverse, isUnitLetter letter = true :=
    fun letter member => inside letter (List.mem_reverse.mp member)
  have stops : rest.reverse.dropWhile isUnitLetter = rest.reverse ∧
      rest.reverse.takeWhile isUnitLetter = [] := by
    cases before : rest.reverse with
    | nil => exact ⟨rfl, rfl⟩
    | cons last others =>
        have ends : rest.getLast? = some last := by rw [← List.head?_reverse, before]; rfl
        have final : ¬isUnitLetter last = true := by simpa [isUnitLetter] using longest last ends
        exact ⟨List.dropWhile_cons_of_neg final, List.takeWhile_cons_of_neg final⟩
  rw [dropEndWhile, takeEndWhile, List.reverse_append, List.dropWhile_append_of_pos reversed,
    List.takeWhile_append_of_pos reversed, stops.1, stops.2, List.append_nil,
    List.reverse_reverse, List.reverse_reverse]
  exact ⟨rfl, rfl⟩

/-! ## Numerals with units -/

section

variable {α : Type} [Scalar α]

/-- How a length is written, without blanks around it. -/
inductive Written : List Char → Length α → Prop
  | units {number blanks letters : List Char} {negative : Bool} {digits : Nat} {exponent : Int}
      {unit : LengthUnit} (numeral : DecimalText number negative digits exponent)
      (blank : Blank blanks) (spelled : unit.Spells letters)
      (finite : (unit.size.scale (Scalar.ofDecimal negative digits exponent) :
        Length α).isFinite = true) :
      Written (number ++ blanks ++ letters)
        (unit.size.scale (Scalar.ofDecimal negative digits exponent))
  | zero {number : List Char} {negative : Bool} {digits : Nat} {exponent : Int}
      (numeral : DecimalText number negative digits exponent)
      (nothing : ((Scalar.ofDecimal negative digits exponent : α) == Scalar.zero) = true) :
      Written number .zero

variable (α) in
/-- For what kind of problem a text without blanks around it is refused. -/
inductive Refused : List Char → Kind → Prop
  /-- What stands before the letters is no numeral, not even a word. -/
  | notANumber {text rest letters : List Char} (parts : Parts text rest letters)
      (none : ∀ numeral, ¬Numeral.Written (trim rest) numeral) : Refused text .badConfig
  /-- The length would be infinite. -/
  | outOfRange {text rest letters : List Char} {negative : Bool} {digits : Nat} {exponent : Int}
      {unit : LengthUnit} (parts : Parts text rest letters)
      (numeral : DecimalText (trim rest) negative digits exponent) (spelled : unit.Spells letters)
      (infinite : (unit.size.scale (Scalar.ofDecimal negative digits exponent) :
        Length α).isFinite = false) : Refused text .badConfig
  /-- The word for infinity or for an undefined number stands before a unit. -/
  | notFinite {text rest letters : List Char} {numeral : Numeral} {unit : LengthUnit}
      (parts : Parts text rest letters) (word : Numeral.Written (trim rest) numeral)
      (special : ¬numeral.IsDecimal) (spelled : unit.Spells letters) : Refused text .badConfig
  /-- There is no unit although the numeral is not zero. -/
  | missingUnit {text : List Char} {negative : Bool} {digits : Nat} {exponent : Int}
      (numeral : DecimalText text negative digits exponent)
      (something : ((Scalar.ofDecimal negative digits exponent : α) == Scalar.zero) = false) :
      Refused text .invalidUnit
  | unknownUnit {text rest letters : List Char} {numeral : Numeral}
      (parts : Parts text rest letters) (number : Numeral.Written (trim rest) numeral)
      (given : letters ≠ []) (unknown : ∀ unit : LengthUnit, ¬unit.Spells letters) :
      Refused text .invalidUnit

variable {length : Length α} {kind : Kind}

/-! ## Decimal numerals in texts -/

section

variable {negative : Bool} {digits : Nat} {exponent : Int}

theorem solid_of_decimalText (numeral : DecimalText number negative digits exponent) :
    ∀ character ∈ number, isBlank character = false := by
  intro character member
  have marks : ['+', '-', '.', 'e', 'E'].any isBlank = false := by decide
  rcases numeral.characters character member with digit | mark
  · exact isBlank_of_isDigit digit
  · exact Bool.not_eq_true _ ▸ List.any_eq_false.mp marks character mark

/-- The letters of an exponent are not taken for a unit. -/
theorem parts_units (numeral : DecimalText number negative digits exponent)
    (blank : Blank blanks) (inside : ∀ letter ∈ letters, letter.isAlpha = true) :
    Parts (number ++ blanks ++ letters) (number ++ blanks) letters where
  whole := rfl
  letters := inside
  longest last ends := by
    rcases numeral.last with ⟨final, numeralEnds, noLetter⟩
    rw [List.getLast?_append, numeralEnds] at ends
    cases blankEnds : blanks.getLast? with
    | none =>
        rw [blankEnds] at ends
        cases ends
        exact noLetter
    | some final =>
        rw [blankEnds] at ends
        cases ends
        exact isAlpha_of_isBlank (blank last (List.mem_of_getLast? blankEnds))

theorem trim_units (numeral : DecimalText number negative digits exponent)
    (blank : Blank blanks) : trim (number ++ blanks) = number := by
  have padded : Padded number (number ++ blanks) := ⟨[], blanks, nofun, blank, rfl⟩
  rw [trim_of_padded padded, trim_of_solid (solid_of_decimalText numeral)]

theorem parts_alone (numeral : DecimalText number negative digits exponent) :
    Parts number number [] where
  whole := (List.append_nil number).symm
  letters := nofun
  longest last ends := by
    rcases numeral.last with ⟨final, numeralEnds, noLetter⟩
    rw [numeralEnds] at ends
    cases ends
    exact noLetter

end

theorem Written.begins {text : List Char} (written : Written text length) :
    ∃ number behind negative digits exponent, text = number ++ behind ∧
      DecimalText number negative digits exponent := by
  cases written with
  | units numeral => exact ⟨_, _, _, _, _, List.append_assoc _ _ _, numeral⟩
  | zero numeral => exact ⟨_, [], _, _, _, (List.append_nil _).symm, numeral⟩

/-! ## Reading -/

/-- A numeral with a unit is only refused if the length is not finite. -/
theorem readTrimmed_units {negative : Bool} {digits : Nat} {exponent : Int} {unit : LengthUnit}
    (numeral : DecimalText number negative digits exponent) (blank : Blank blanks)
    (spelled : unit.Spells letters) :
    (readTrimmed (number ++ blanks ++ letters) : Except LengthProblem (Length α)) =
      if (unit.size.scale (Scalar.ofDecimal negative digits exponent) : Length α).isFinite then
        .ok (unit.size.scale (Scalar.ofDecimal negative digits exponent))
      else .error (.outOfRange (String.ofList (number ++ blanks ++ letters))) := by
  rcases (parts_units numeral blank spelled.isAlpha.2).eq with ⟨rest, word⟩
  rw [readTrimmed, rest, word, trim_units numeral blank,
    ofChars?_eq_some.mpr (.decimal numeral), LengthUnit.ofWord?_eq_some.mpr spelled]
  dsimp only
  rw [List.isEmpty_eq_false_iff.mpr spelled.isAlpha.1, if_neg Bool.false_ne_true, ofNumeral?]
  cases (unit.size.scale (Scalar.ofDecimal negative digits exponent) : Length α).isFinite <;> rfl

theorem readTrimmed_of_written {text : List Char} (written : Written text length) :
    readTrimmed text = .ok length := by
  cases written with
  | units numeral blank spelled finite =>
      rw [readTrimmed_units numeral blank spelled, if_pos finite]
  | zero numeral nothing =>
      rcases (parts_alone numeral).eq with ⟨rest, word⟩
      rw [readTrimmed, rest, word, trim_of_solid (solid_of_decimalText numeral),
        ofChars?_eq_some.mpr (.decimal numeral)]
      exact if_pos nothing

theorem readTrimmed_of_refused (refused : Refused α text kind) :
    ∃ problem, (readTrimmed text : Except LengthProblem (Length α)) = .error problem ∧
      problem.toCause.kind = kind := by
  cases refused with
  | notANumber parts none =>
      have unread := Option.eq_none_iff_forall_ne_some.mpr
        fun numeral read => none numeral (ofChars?_eq_some.mp read)
      rw [readTrimmed, parts.eq.1, parts.eq.2, unread]
      exact ⟨_, rfl, rfl⟩
  | outOfRange parts numeral spelled infinite =>
      have given := List.isEmpty_eq_false_iff.mpr spelled.isAlpha.1
      rw [readTrimmed, parts.eq.1, parts.eq.2, ofChars?_eq_some.mpr (.decimal numeral),
        LengthUnit.ofWord?_eq_some.mpr spelled]
      dsimp only
      rw [given, ofNumeral?, infinite]
      exact ⟨_, rfl, rfl⟩
  | @notFinite _ _ numeral _ parts word special spelled =>
      have given := List.isEmpty_eq_false_iff.mpr spelled.isAlpha.1
      rw [readTrimmed, parts.eq.1, parts.eq.2, ofChars?_eq_some.mpr word,
        LengthUnit.ofWord?_eq_some.mpr spelled]
      dsimp only
      rw [given]
      cases numeral with
      | decimal => exact absurd trivial special
      | infinity => exact ⟨_, rfl, rfl⟩
      | notANumber => exact ⟨_, rfl, rfl⟩
  | missingUnit numeral something =>
      rcases (parts_alone numeral).eq with ⟨rest, word⟩
      rw [readTrimmed, rest, word, trim_of_solid (solid_of_decimalText numeral),
        ofChars?_eq_some.mpr (.decimal numeral)]
      dsimp only
      rw [isZeroNumeral, something]
      exact ⟨_, rfl, rfl⟩
  | unknownUnit parts number given unknown =>
      have unread := Option.eq_none_iff_forall_ne_some.mpr
        fun unit read => unknown unit (LengthUnit.ofWord?_eq_some.mp read)
      rw [readTrimmed, parts.eq.1, parts.eq.2, ofChars?_eq_some.mpr number,
        List.isEmpty_eq_false_iff.mpr given, unread]
      exact ⟨_, rfl, rfl⟩

/-- Before the letters at its end, a text without blanks around it only has blanks behind what
is read as a numeral. -/
theorem Parts.padded (parts : Parts text rest letters) (trimmed : trim text = text) :
    ∃ blanks, Blank blanks ∧ text = trim rest ++ blanks ++ letters := by
  have solid : ∀ first ∈ rest.head?, isBlank first = false := by
    intro first head
    have begins : (trim text).head? = some first → isBlank first = false := head_trim first
    apply begins
    rw [trimmed, parts.whole, List.head?_append, Option.mem_def.mp head]
    rfl
  refine ⟨takeEndWhile isBlank rest, blank_takeEndWhile rest, ?_⟩
  rw [trim_of_head solid, dropEndWhile_append_takeEndWhile]
  exact parts.whole

/-- The words for what is not finite end in letters. -/
theorem isDecimal_of_written {numeral : Numeral} (written : Numeral.Written text numeral)
    (noLetters : ∀ last ∈ text.getLast?, last.isAlpha = false) : numeral.IsDecimal := by
  by_contra special
  rcases written.exists_word special with ⟨sign, word, rfl, _, isWord⟩
  have ends := List.getLast?_eq_some_getLast isWord.nonempty
  have letter := isWord.letters _ (List.getLast_mem isWord.nonempty)
  rw [noLetters _ (getLast?_append_of_some ends)] at letter
  cases letter

variable (α) in
/-- A text without blanks around it is a length or is refused for some problem. -/
theorem readTrimmed_cases (trimmed : trim text = text) :
    (∃ length : Length α, Written text length) ∨ ∃ kind, Refused α text kind := by
  have parts := parts_self text
  revert parts
  generalize dropEndWhile isUnitLetter text = rest
  generalize takeEndWhile isUnitLetter text = letters
  intro parts
  by_cases number : ∃ numeral, Numeral.Written (trim rest) numeral
  case neg => exact .inr ⟨_, .notANumber parts (not_exists.mp number)⟩
  rcases number with ⟨numeral, number⟩
  by_cases given : letters = []
  · -- Without letters the whole text is the numeral.
    have whole : text = rest := by rw [parts.whole, given, List.append_nil]
    subst whole
    rw [trimmed] at number
    rcases number.exists_decimalText (isDecimal_of_written number parts.longest) with
      ⟨negative, digits, exponent, _, decimal⟩
    cases zero : (Scalar.ofDecimal negative digits exponent : α) == Scalar.zero with
    | true => exact .inl ⟨_, .zero decimal zero⟩
    | false => exact .inr ⟨_, .missingUnit decimal zero⟩
  by_cases spelled : ∃ unit : LengthUnit, unit.Spells letters
  case neg => exact .inr ⟨_, .unknownUnit parts number given (not_exists.mp spelled)⟩
  rcases spelled with ⟨unit, spelled⟩
  by_cases finite : numeral.IsDecimal
  case neg => exact .inr ⟨_, .notFinite parts number finite spelled⟩
  rcases number.exists_decimalText finite with ⟨negative, digits, exponent, _, decimal⟩
  cases inside : (unit.size.scale (Scalar.ofDecimal negative digits exponent) :
      Length α).isFinite with
  | false => exact .inr ⟨_, .outOfRange parts decimal spelled inside⟩
  | true =>
      rcases parts.padded trimmed with ⟨blanks, blank, whole⟩
      rw [whole]
      exact .inl ⟨_, .units decimal blank spelled inside⟩

theorem readTrimmed_eq_ok (trimmed : trim text = text) :
    readTrimmed text = .ok length ↔ Written text length := by
  refine ⟨fun read => ?_, readTrimmed_of_written⟩
  rcases readTrimmed_cases α trimmed with ⟨other, written⟩ | ⟨kind, refused⟩
  · rw [readTrimmed_of_written written] at read
    cases read
    exact written
  · rcases readTrimmed_of_refused refused with ⟨problem, failed, _⟩
    rw [read] at failed
    cases failed

theorem readTrimmed_eq_error (trimmed : trim text = text) :
    (∃ problem, (readTrimmed text : Except LengthProblem (Length α)) = .error problem ∧
      problem.toCause.kind = kind) ↔ Refused α text kind := by
  refine ⟨?_, readTrimmed_of_refused⟩
  rintro ⟨problem, failed, rfl⟩
  rcases readTrimmed_cases α trimmed with ⟨length, written⟩ | ⟨kind, refused⟩
  · rw [readTrimmed_of_written written] at failed
    cases failed
  · rcases readTrimmed_of_refused refused with ⟨other, here, rfl⟩
    rw [failed] at here
    cases here
    exact refused

theorem is_lengthProblem (problem : LengthProblem) (kind : Kind) :
    problem.toFailure.is kind = true ↔ kind = problem.toCause.kind := by
  rw [LengthProblem.toFailure, Failure.is_cause, beq_iff_eq, eq_comm]

/-- Exactly the texts of the grammar are read, as the lengths that they stand for. All others are
refused, and only for the one kind of problem that the letters at their end and the text before
them tell. What begins with a word for infinity or for an undefined number is never read. -/
theorem read_iff_grammar :
    (∀ (text : String) (length : Length α),
        read text = .ok length ↔ Written (trim text.toList) length) ∧
      (∀ (text : String) (kind : Kind),
        (∃ problem, (read text : Except LengthProblem (Length α)) = .error problem ∧
          ∀ other, problem.toFailure.is other = true ↔ other = kind) ↔
            Refused α (trim text.toList) kind) ∧
      ∀ (text : String) (special rest : List Char) (numeral : Numeral),
        Numeral.Written special numeral → ¬numeral.IsDecimal →
          trim text.toList = special ++ rest →
            ∀ length : Length α, read text ≠ .ok length := by
  refine ⟨fun text length => readTrimmed_eq_ok trim_trim, fun text kind => ?_, ?_⟩
  · rw [← readTrimmed_eq_error trim_trim]
    refine exists_congr fun problem => and_congr_right fun _ => ?_
    simp only [is_lengthProblem]
    exact ⟨fun only => (only _).mp rfl, fun same other => by rw [same]⟩
  · intro text special rest numeral named noDecimal begins length read
    have written := (readTrimmed_eq_ok trim_trim).mp read
    rcases written.begins with ⟨number, behind, negative, digits, exponent, whole, decimal⟩
    exact decimal.not_special named noDecimal (whole.symm.trans begins)

end

end Length

end PageSketch
