import Mathlib.Data.List.TakeWhile
import PageSketch.PageRange
import PageSketch.Proofs.Characters
import PageSketch.Proofs.Outcomes
import PageSketch.Proofs.TrimmedText

/-! # The text of ranges

A range is read from a text exactly if the text is one end, or two ends with a dash between
them, of which the second may be left out. Each range is read from the text that is written for
it. -/

namespace PageSketch.PageRange

open Text

/-- Decimal digits of the value of a number of a page. -/
structure Numeral (digits : List Char) (page : PageNumber) : Prop where
  nonempty : digits ≠ []
  decimal : ∀ digit ∈ digits, digit.isDigit = true
  value : Nat.ofDigitChars 10 digits 0 = page.val

/-- How an end is written. -/
inductive EndWord : List Char → PageNumber → Prop
  | last : EndWord "last".toList .last
  | lastPage : EndWord "(last)".toList .last
  | number {digits : List Char} {page : PageNumber} (numeral : Numeral digits page) :
      EndWord digits page
  | plus {digits : List Char} {page : PageNumber} (numeral : Numeral digits page) :
      EndWord ('+' :: digits) page

/-- How an end is written, with blanks around it. -/
def EndText (text : List Char) (page : PageNumber) : Prop :=
  ∃ word, Padded word text ∧ EndWord word page

/-- How a range with given ends is written, whether there is one or not. There may be blanks
around either end, and so around the text. -/
inductive EndsText : List Char → PageNumber → PageNumber → Prop
  | single {text : List Char} {page : PageNumber} (only : EndText text page) :
      EndsText text page page
  | both {first second : List Char} {lower upper : PageNumber} (begins : EndText first lower)
      (ends : EndText second upper) : EndsText (first ++ '-' :: second) lower upper
  | openEnd {first second : List Char} {lower : PageNumber} (begins : EndText first lower)
      (blank : Blank second) : EndsText (first ++ '-' :: second) lower .last

variable {text first second word : List Char} {page lower upper : PageNumber}
  {range : PageRange}

/-! ## Ends -/

theorem solid_of_isDigit {digit : Char} (decimal : digit.isDigit = true) :
    isBlank digit = false ∧ digit ≠ '-' := by
  refine ⟨isBlank_of_isDigit decimal, ?_⟩
  rintro rfl
  cases decimal

theorem EndWord.solid (written : EndWord word page) :
    ∀ character ∈ word, isBlank character = false ∧ character ≠ '-' := by
  cases written with
  | last => exact List.forall_iff_forall_mem.mp (by decide)
  | lastPage => exact List.forall_iff_forall_mem.mp (by decide)
  | number numeral => exact fun character member => solid_of_isDigit (numeral.decimal _ member)
  | plus numeral =>
      exact List.forall_mem_cons.mpr
        ⟨by decide, fun character member => solid_of_isDigit (numeral.decimal _ member)⟩

theorem EndText.no_dash (written : EndText text page) : '-' ∉ text := by
  rcases written with ⟨word, ⟨before, after, blankBefore, blankAfter, rfl⟩, spelled⟩
  have notBlank : ¬isBlank '-' = true := by decide
  intro member
  rcases List.mem_append.mp member with inner | trailing
  · rcases List.mem_append.mp inner with leading | here
    · exact notBlank (blankBefore _ leading)
    · exact (spelled.solid _ here).2 rfl
  · exact notBlank (blankAfter _ trailing)

theorem Numeral.no_sign {digits : List Char} (numeral : Numeral digits page) :
    digits.head? ≠ some '+' := by
  intro sign
  cases numeral.decimal '+' (List.mem_of_head? sign)

theorem Numeral.ne_last {digits : List Char} (numeral : Numeral digits page) :
    ¬(digits = "last".toList ∨ digits = "(last)".toList) := by
  rintro (rfl | rfl)
  · cases numeral.decimal 'l' (by decide)
  · cases numeral.decimal 'l' (by decide)

theorem readNumber?_eq_some : readNumber? word = some page ↔
    Numeral (if word.head? = some '+' then word.tail else word) page := by
  rw [readNumber?, Option.dite_none_right_eq_some]
  constructor
  · rintro ⟨⟨nonempty, decimal, bounded⟩, same⟩
    exact ⟨nonempty, List.all_eq_true.mp decimal, congrArg Fin.val (Option.some.inj same)⟩
  · rintro ⟨nonempty, decimal, value⟩
    have bounded : digitsValue 0 (if word.head? = some '+' then word.tail else word) <
        UInt64.size := lt_of_eq_of_lt value page.isLt
    exact ⟨⟨nonempty, List.all_eq_true.mpr decimal, bounded⟩, congrArg some (Fin.ext value)⟩

theorem readEnd?_eq_some : readEnd? text = some page ↔ EndText text page := by
  rw [readEnd?]
  constructor
  · intro read
    refine ⟨trim text, padded_trim text, ?_⟩
    split at read
    · next named =>
        cases read
        rcases named with last | last <;> rw [last]
        · exact .last
        · exact .lastPage
    · have numeral := readNumber?_eq_some.mp read
      split at numeral
      · next sign =>
          rw [← List.cons_head?_tail sign]
          exact .plus numeral
      · exact .number numeral
  · rintro ⟨word, padded, written⟩
    rw [trim_of_padded padded, trim_of_solid fun character member => (written.solid _ member).1]
    cases written with
    | last => rfl
    | lastPage => rfl
    | number numeral =>
        rw [if_neg numeral.ne_last, readNumber?_eq_some, if_neg numeral.no_sign]
        exact numeral
    | plus numeral =>
        rw [if_neg (by simp), readNumber?_eq_some]
        exact numeral

/-! ## Both ends -/

theorem ofEnds_eq_ok :
    ofEnds lower upper = .ok range ↔ range.lower = lower ∧ range.upper = upper := by
  constructor
  · intro read
    rw [ofEnds] at read
    split at read
    · split at read
      · cases read
        exact ⟨rfl, rfl⟩
      · cases read
    · cases read
  · rintro ⟨rfl, rfl⟩
    rw [ofEnds, dif_pos range.one_le_lower, dif_pos range.lower_le_upper]

theorem readEnd?_of_padded {core : List Char} (padded : Padded core text) :
    readEnd? core = readEnd? text := by
  rw [readEnd?, readEnd?, trim_of_padded padded]

theorem read_of_no_dash {text : String} (plain : '-' ∉ text.toList) :
    (read text).toOption = (readEnd? text.toList).bind fun page => (single page).toOption := by
  have trimmed := padded_trim text.toList
  have noDash : ∀ character ∈ trim text.toList, decide (character ≠ '-') = true := by
    intro character member
    exact decide_eq_true fun dash => plain (dash ▸ trimmed.subset member)
  rw [read, readTrimmed, List.takeWhile_eq_self_iff.mpr noDash,
    List.dropWhile_eq_nil_iff.mpr noDash, readEnd?_of_padded trimmed]
  cases readEnd? text.toList <;> rfl

theorem read_of_dash {text : String} (parts : text.toList = first ++ '-' :: second)
    (plain : '-' ∉ first) :
    (read text).toOption = (readEnd? first).bind fun lower =>
      (if (trim second).isEmpty then some .last else readEnd? second).bind fun upper =>
        (ofEnds lower upper).toOption := by
  have noDash : ∀ character ∈ first.dropWhile isBlank, decide (character ≠ '-') = true := by
    intro character member
    exact decide_eq_true fun dash => plain (dash ▸ (padded_dropWhile first).subset member)
  have before : (first.dropWhile isBlank ++ '-' :: dropEndWhile isBlank second).takeWhile
      (· ≠ '-') = first.dropWhile isBlank := by
    rw [List.takeWhile_append_of_pos noDash, List.takeWhile_cons_of_neg (by simp), List.append_nil]
  have after : (first.dropWhile isBlank ++ '-' :: dropEndWhile isBlank second).dropWhile
      (· ≠ '-') = '-' :: dropEndWhile isBlank second := by
    rw [List.dropWhile_append_of_pos noDash, List.dropWhile_cons_of_neg (by simp)]
  rw [read, parts, trim_append_cons (by decide), readTrimmed, before, after]
  dsimp only
  rw [readEnd?_of_padded (padded_dropWhile first), readEnd?_of_padded (padded_dropEndWhile second),
    ← trim_of_padded (padded_dropEndWhile second)]
  cases readEnd? first with
  | none => rfl
  | some lower =>
      cases if (trim second).isEmpty then some PageNumber.last else readEnd? second <;> rfl

/-! ## Reading and writing -/

theorem EndWord.endText (written : EndWord word page) : EndText word page :=
  ⟨word, ⟨[], [], nofun, nofun, by simp⟩, written⟩

theorem EndText.not_blank (written : EndText text page) : (trim text).isEmpty = false := by
  rcases written with ⟨word, padded, spelled⟩
  rw [trim_of_padded padded, trim_of_solid fun character member => (spelled.solid _ member).1]
  cases spelled with
  | last => rfl
  | lastPage => rfl
  | number numeral => exact List.isEmpty_eq_false_iff.mpr numeral.nonempty
  | plus numeral => rfl

theorem endsText_of_read {text : String} (found : read text = .ok range) :
    EndsText text.toList range.lower range.upper := by
  rw [← Steps.toOption_eq_some] at found
  by_cases dash : '-' ∈ text.toList
  · rcases List.eq_append_cons_of_mem dash with ⟨first, second, parts, plain⟩
    rw [read_of_dash parts plain] at found
    rcases Option.bind_eq_some_iff.mp found with ⟨lower, begins, found⟩
    rcases Option.bind_eq_some_iff.mp found with ⟨upper, ends, found⟩
    rcases ofEnds_eq_ok.mp (Steps.toOption_eq_some.mp found) with ⟨rfl, rfl⟩
    rw [parts]
    split at ends
    · next nothing =>
        rw [← Option.some.inj ends]
        exact .openEnd (readEnd?_eq_some.mp begins)
          (trim_eq_nil_iff.mp (List.isEmpty_iff.mp nothing))
    · exact .both (readEnd?_eq_some.mp begins) (readEnd?_eq_some.mp ends)
  · rw [read_of_no_dash dash] at found
    rcases Option.bind_eq_some_iff.mp found with ⟨page, only, found⟩
    rcases ofEnds_eq_ok.mp (Steps.toOption_eq_some.mp found) with ⟨lower, upper⟩
    rw [lower, upper]
    exact .single (readEnd?_eq_some.mp only)

theorem read_of_endsText {text : String} (written : EndsText text.toList range.lower range.upper) :
    read text = .ok range := by
  have ordered : ofEnds range.lower range.upper = .ok range := ofEnds_eq_ok.mpr ⟨rfl, rfl⟩
  generalize parts : text.toList = characters at written
  generalize low : range.lower = lower at written ordered
  generalize high : range.upper = upper at written ordered
  rw [← Steps.toOption_eq_some]
  cases written with
  | single only =>
      rw [read_of_no_dash (parts ▸ only.no_dash), parts, readEnd?_eq_some.mpr only]
      exact Steps.toOption_eq_some.mpr ordered
  | both begins ends =>
      rw [read_of_dash parts begins.no_dash, readEnd?_eq_some.mpr begins, ends.not_blank,
        if_neg Bool.false_ne_true, readEnd?_eq_some.mpr ends]
      exact Steps.toOption_eq_some.mpr ordered
  | openEnd begins blank =>
      rw [read_of_dash parts begins.no_dash, readEnd?_eq_some.mpr begins,
        trim_eq_nil_iff.mpr blank]
      exact Steps.toOption_eq_some.mpr ordered

theorem endText_toString (page : PageNumber) : EndText (toString page.val).toList page := by
  rw [Nat.toString_eq_ofList_toDigits, String.toList_ofList]
  exact (EndWord.number ⟨Nat.toDigits_ne_nil,
    fun digit => Nat.isDigit_of_mem_toDigits (by decide) (by decide),
    Nat.ofDigitChars_ten_toDigits⟩).endText

theorem endsText_display (range : PageRange) :
    EndsText range.display.toList range.lower range.upper := by
  have order := range.lower_le_upper
  rw [display]
  split
  · next lastOnly =>
      have lower : range.lower = .last := of_decide_eq_true lastOnly
      have upper : range.upper = .last := Fin.le_antisymm (Fin.le_last _) (lower ▸ order)
      rw [lower, upper]
      exact .single EndWord.lastPage.endText
  · split
    · next same =>
        rw [← same]
        exact .single (endText_toString range.lower)
    · split
      · next endless =>
          rw [endless, String.toList_append]
          exact .both (endText_toString range.lower) EndWord.lastPage.endText
      · rw [String.toList_append, String.toList_append, List.append_assoc]
        exact .both (endText_toString range.lower) (endText_toString range.upper)

theorem is_toFailure (problem : RangeProblem) (kind : Kind) :
    problem.toFailure.is kind = true ↔ kind = .invalidPageRange := by
  cases problem <;> rw [RangeProblem.toFailure, Failure.is_cause, Cause.kind, beq_iff_eq, eq_comm]

/-- Every range is read from its written form. A text is read as a range exactly if it is how
the ends of the range are written, and any ends make a range that are counted from one and in
order. All other texts are refused as ranges of pages that are not valid. -/
theorem read_iff_written :
    (∀ range, read range.display = .ok range) ∧
    (∀ text range, read text = .ok range ↔ EndsText text.toList range.lower range.upper) ∧
    (∀ text, (∃ range, read text = .ok range) ↔
      ∃ lower upper : PageNumber, EndsText text.toList lower upper ∧ 1 ≤ lower.val ∧
        lower ≤ upper) ∧
    ∀ text, (¬∃ range, read text = .ok range) →
      ∃ problem, read text = .error problem ∧
        ∀ kind, problem.toFailure.is kind = true ↔ kind = .invalidPageRange := by
  refine ⟨fun range => read_of_endsText (endsText_display range),
    fun text range => ⟨endsText_of_read, read_of_endsText⟩, fun text => ⟨?_, ?_⟩,
    fun text refused => ?_⟩
  · rintro ⟨range, found⟩
    exact ⟨range.lower, range.upper, endsText_of_read found, range.one_le_lower,
      range.lower_le_upper⟩
  · rintro ⟨lower, upper, written, first, order⟩
    exact ⟨⟨lower, upper, first, order⟩, read_of_endsText written⟩
  · cases outcome : read text with
    | ok range => exact absurd ⟨range, outcome⟩ refused
    | error problem => exact ⟨problem, rfl, is_toFailure problem⟩

end PageSketch.PageRange
