import Mathlib.Data.List.DropRight
import PageSketch.Text.Blank

/-! # Blanks around texts

What trimming takes away is blank, and blanks around a text do not change what is left of it. -/

namespace PageSketch.Text

variable {text core middle word before after first second : List Char} {mark : Char}

def Blank (text : List Char) : Prop := ∀ character ∈ text, isBlank character = true

/-- The text is `core` with blanks around it. -/
def Padded (core text : List Char) : Prop :=
  ∃ before after, Blank before ∧ Blank after ∧ text = before ++ core ++ after

theorem Padded.subset (padded : Padded core text) : core ⊆ text := by
  rcases padded with ⟨before, after, _, _, rfl⟩
  exact List.Subset.trans (List.subset_append_right before core) (List.subset_append_left _ after)

theorem Blank.append (first : Blank before) (second : Blank after) : Blank (before ++ after) :=
  List.forall_mem_append.mpr ⟨first, second⟩

theorem Padded.trans (inner : Padded core middle) (outer : Padded middle text) :
    Padded core text := by
  rcases inner with ⟨before, after, blankBefore, blankAfter, rfl⟩
  rcases outer with ⟨first, last, blankFirst, blankLast, rfl⟩
  exact ⟨first ++ before, after ++ last, blankFirst.append blankBefore,
    blankAfter.append blankLast, by simp⟩

theorem blank_takeEndWhile (text : List Char) : Blank (takeEndWhile isBlank text) :=
  fun _ member => List.mem_takeWhile_imp (List.mem_reverse.mp member)

theorem padded_dropWhile (text : List Char) : Padded (text.dropWhile isBlank) text :=
  ⟨text.takeWhile isBlank, [], fun _ => List.mem_takeWhile_imp, nofun, by
    rw [List.append_nil, List.takeWhile_append_dropWhile]⟩

theorem padded_dropEndWhile (text : List Char) : Padded (dropEndWhile isBlank text) text :=
  ⟨[], takeEndWhile isBlank text, nofun, blank_takeEndWhile text, by
    rw [List.nil_append, dropEndWhile_append_takeEndWhile]⟩

theorem padded_trim (text : List Char) : Padded (trim text) text :=
  (padded_dropEndWhile _).trans (padded_dropWhile text)

theorem dropEndWhile_append_of_blank (text : List Char) (blank : Blank after) :
    dropEndWhile isBlank (text ++ after) = dropEndWhile isBlank text := by
  have reversed : Blank after.reverse :=
    fun character member => blank character (List.mem_reverse.mp member)
  rw [dropEndWhile, List.reverse_append, List.dropWhile_append_of_pos reversed, dropEndWhile]

theorem trim_of_padded (padded : Padded core text) : trim text = trim core := by
  rcases padded with ⟨before, after, blankBefore, blankAfter, rfl⟩
  rw [trim, trim, List.append_assoc, List.dropWhile_append_of_pos blankBefore,
    List.dropWhile_append]
  split
  · next nothing =>
      rw [List.isEmpty_iff.mp nothing, List.dropWhile_eq_nil_iff.mpr blankAfter]
  · exact dropEndWhile_append_of_blank _ blankAfter

theorem trim_eq_nil_iff : trim text = [] ↔ Blank text := by
  constructor
  · intro nothing
    rcases padded_trim text with ⟨before, after, blankBefore, blankAfter, whole⟩
    rw [whole, nothing, List.append_nil]
    exact blankBefore.append blankAfter
  · intro blank
    have padded : Padded [] text := ⟨text, [], blank, nofun, by simp⟩
    exact trim_of_padded padded

/-- A text that begins with no blank only loses those at its end. -/
theorem trim_of_head (solid : ∀ first ∈ text.head?, isBlank first = false) :
    trim text = dropEndWhile isBlank text := by
  cases text with
  | nil => rfl
  | cons first rest => rw [trim, List.dropWhile_cons_of_neg (by simp [solid first rfl])]

theorem head_trim : ∀ first ∈ (trim text).head?, isBlank first = false := by
  intro first head
  have whole := dropEndWhile_append_takeEndWhile isBlank (text.dropWhile isBlank)
  have here : (text.dropWhile isBlank).head? = some first := by
    rw [← whole, List.head?_append, ← trim, Option.mem_def.mp head]
    rfl
  have stopped := List.head?_dropWhile_not isBlank text
  rwa [here] at stopped

theorem trim_trim : trim (trim text) = trim text := (trim_of_padded (padded_trim text)).symm

/-- A text that neither begins nor ends with a blank stays as it is. -/
theorem trim_of_ends (first : ∀ character ∈ text.head?, isBlank character = false)
    (last : ∀ character ∈ text.getLast?, isBlank character = false) : trim text = text := by
  rw [trim_of_head first]
  exact List.rdropWhile_eq_self_iff.mpr fun nonempty => by
    simp [last _ (List.getLast?_eq_some_getLast nonempty)]

/-- A text without any blanks stays as it is. -/
theorem trim_of_solid (solid : ∀ character ∈ word, isBlank character = false) :
    trim word = word :=
  trim_of_ends (fun first head => solid first (List.mem_of_head? head))
    fun last ends => solid last (List.mem_of_getLast? ends)

theorem dropWhile_append_cons (solid : isBlank mark = false) (first second : List Char) :
    (first ++ mark :: second).dropWhile isBlank = first.dropWhile isBlank ++ mark :: second := by
  rw [List.dropWhile_append]
  split
  · next nothing =>
      rw [List.isEmpty_iff.mp nothing, List.nil_append,
        List.dropWhile_cons_of_neg (by simp [solid])]
  · rfl

/-- Blanks next to a character that is not blank stay. -/
theorem trim_append_cons (solid : isBlank mark = false) :
    trim (first ++ mark :: second) =
      first.dropWhile isBlank ++ mark :: dropEndWhile isBlank second := by
  rw [trim, dropWhile_append_cons solid, dropEndWhile, List.reverse_append, List.reverse_cons,
    List.append_assoc, List.singleton_append, dropWhile_append_cons solid, dropEndWhile]
  simp

end PageSketch.Text
