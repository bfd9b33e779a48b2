import Mathlib.Data.List.Forall2
import PageSketch.Proofs.RectOrder
import PageSketch.Sketch.Locator

/-! # The search for text

The index has one entry for each element of a page, so that the elements that meet an
area are those of the page whose bounds do. Their order is left to the index. A search
therefore finds something exactly if some element of the page suits, and what it finds comes
from an element that does. -/

namespace PageSketch

/-! ## The index -/

namespace Page

variable {α : Type}

/-- An entry refers to an element and keeps its bounds. -/
def Indexes (page : Page α) (entry : IndexEntry α) (element : Element α) : Prop :=
  page.element? entry = some element ∧ entry.bounds = element.bounds

theorem indexes_blockEntries {page : Page α} {block : Block α} {index : Nat}
    (found : page.blocks[index]? = some block) :
    List.Forall₂ page.Indexes (blockEntries block index)
      (.block block :: block.lines.map .line) := by
  apply List.Forall₂.cons
  · exact ⟨by simp [element?, found], rfl⟩
  · have lines : block.lines.map Element.line =
        block.lines.zipIdx.map fun numbered => .line numbered.1 := by
      conv_lhs => rw [← List.zipIdx_map_fst 0 block.lines, List.map_map]
      rfl
    rw [lines, List.forall₂_map_left_iff, List.forall₂_map_right_iff, List.forall₂_same]
    rintro ⟨line, lineIndex⟩ member
    have placed : block.lines[lineIndex]? = some line :=
      List.mk_mem_zipIdx_iff_getElem?.mp member
    exact ⟨by simp [element?, found, placed], rfl⟩

/-- The entries of the index correspond to the elements one to one. -/
theorem indexes_entries (page : Page α) :
    List.Forall₂ page.Indexes page.entries page.elements := by
  have elements : page.elements = page.blocks.zipIdx.flatMap fun numbered =>
      .block numbered.1 :: numbered.1.lines.map .line := by
    conv_lhs => rw [Page.elements, ← List.zipIdx_map_fst 0 page.blocks, List.flatMap_map]
  rw [elements]
  have same : List.Forall₂ (fun first second => first = second ∧ first ∈ page.blocks.zipIdx)
      page.blocks.zipIdx page.blocks.zipIdx :=
    List.forall₂_same.mpr fun numbered member => ⟨rfl, member⟩
  apply List.rel_flatMap same
  rintro ⟨block, index⟩ _ ⟨rfl, member⟩
  exact indexes_blockEntries (List.mk_mem_zipIdx_iff_getElem?.mp member)

/-- Every entry leads to an element. -/
theorem exists_indexed {page : Page α} {entry : IndexEntry α} (listed : entry ∈ page.entries) :
    ∃ element ∈ page.elements, page.Indexes entry element := by
  have indexed := page.indexes_entries
  generalize page.entries = entries at listed indexed
  generalize page.elements = elements at indexed ⊢
  induction indexed with
  | nil => cases listed
  | cons here _ induction =>
      rcases List.mem_cons.mp listed with rfl | later
      · exact ⟨_, List.mem_cons_self, here⟩
      · rcases induction later with ⟨element, member, indexes⟩
        exact ⟨element, List.mem_cons_of_mem _ member, indexes⟩

variable [Scalar α] {page : Page α} {area : Rect α} {answer : List (IndexEntry α)}

theorem filterMap_hits (page : Page α) (area : Rect α) :
    (page.hits area).filterMap page.element? =
      page.elements.filter fun element => element.bounds.envelope.Meets area.envelope := by
  have indexed := page.indexes_entries
  rw [hits]
  generalize page.entries = entries at indexed ⊢
  generalize page.elements = elements at indexed ⊢
  induction indexed with
  | nil => rfl
  | cons indexed _ induction =>
      rw [List.filter_cons, List.filter_cons, indexed.2]
      split
      · rw [List.filterMap_cons, indexed.1, induction]
      · exact induction

theorem Answers.exists_element (answers : page.Answers area answer) {entry : IndexEntry α}
    (member : entry ∈ answer) :
    ∃ element ∈ page.elements, page.element? entry = some element := by
  have listed : entry ∈ page.entries := (List.mem_filter.mp (answers.mem_iff.mp member)).1
  rcases exists_indexed listed with ⟨element, present, found, _⟩
  exact ⟨element, present, found⟩

/-- Whatever the order of an answer, its elements are those of the page that meet the area. -/
theorem Answers.elements (answers : page.Answers area answer) :
    (answer.filterMap page.element?).Perm
      (page.elements.filter fun element => element.bounds.envelope.Meets area.envelope) := by
  rw [← page.filterMap_hits]
  exact answers.filterMap page.element?

end Page

/-! ## Locators -/

theorem PatternMatch.text_of_evaluate? {pattern : Pattern} {text : String}
    {found : PatternMatch} (evaluated : evaluate? pattern text = some found) :
    found.text = text := by
  rcases Option.map_eq_some_iff.mp evaluated with ⟨finding, _, rfl⟩
  rfl

namespace TextLocator

variable {α : Type} [Scalar α] {locator : TextLocator} {page : Page α} {area : Rect α}
  {element : Element α} {answer : List (IndexEntry α)}

theorem locateIn?_eq_some {located : Located α} :
    locator.locateIn? area element = some located ↔
      locator.Admits area element ∧
        PatternMatch.evaluate? locator.pattern element.text = some located.found ∧
        located.bounds = locator.place element located.found := by
  rw [locateIn?]
  split
  · next admitted =>
      rw [Option.map_eq_some_iff]
      constructor
      · rintro ⟨found, evaluated, rfl⟩
        exact ⟨admitted, evaluated, rfl⟩
      · rintro ⟨_, evaluated, placed⟩
        exact ⟨located.found, evaluated, by rw [← placed]⟩
  · next refused => simp [refused]

/-- An element may be found, and its text matches. -/
def Suits (locator : TextLocator) (area : Rect α) (element : Element α) : Prop :=
  locator.Admits area element ∧
    (PatternMatch.evaluate? locator.pattern element.text).isSome = true

/-- Bounds are those of the characters that matched, if these are wanted and have a place,
and those of the element otherwise. -/
def Places (locator : TextLocator) (element : Element α) (found : PatternMatch)
    (bounds : Rect α) : Prop :=
  (locator.boundsFromMatch = true ∧ ∃ span, found.span? 0 = some span ∧
      element.rangeBounds? span.start span.stop = some bounds) ∨
    bounds = element.bounds ∧ (locator.boundsFromMatch = true → ∀ span,
      found.span? 0 = some span → element.rangeBounds? span.start span.stop = none)

theorem places_place (locator : TextLocator) (element : Element α) (found : PatternMatch) :
    locator.Places element found (locator.place element found) := by
  rw [place, Places]
  cases wanted : locator.boundsFromMatch with
  | false => simp
  | true =>
      cases spanned : found.span? 0 with
      | none => simp
      | some span => cases placed : element.rangeBounds? span.start span.stop <;> simp [placed]

theorem isSome_locateIn? :
    (locator.locateIn? area element).isSome = true ↔ locator.Suits area element := by
  rw [locateIn?, Suits]
  split
  · next admitted => simp [admitted]
  · next refused => simp [refused]

/-- What is found in an element is its text, its match and the place of that. -/
theorem suits_of_locateIn? {located : Located α}
    (here : locator.locateIn? area element = some located) :
    locator.Suits area element ∧
      PatternMatch.evaluate? locator.pattern element.text = some located.found ∧
      locator.Places element located.found located.bounds := by
  rcases locateIn?_eq_some.mp here with ⟨admitted, evaluated, placed⟩
  refine ⟨⟨admitted, ?_⟩, evaluated, ?_⟩
  · rw [evaluated, Option.isSome_some]
  · rw [placed]
    exact locator.places_place element located.found

/-- The elements in an answer of the index that suit are those of the page. -/
theorem suits_answer_iff [Scalar.Ordered α] (answers : page.Answers area answer) :
    element ∈ answer.filterMap page.element? ∧ locator.Suits area element ↔
      element ∈ page.elements ∧ locator.Suits area element := by
  rw [answers.elements.mem_iff, List.mem_filter]
  constructor
  · rintro ⟨⟨member, _⟩, suits⟩
    exact ⟨member, suits⟩
  -- An element that lies within the area meets it as well.
  · rintro ⟨member, suits⟩
    exact ⟨⟨member, decide_eq_true suits.1.2.meets⟩, suits⟩

section

variable [SpatialIndex α] {located : Located α}

/-- What is found comes from an element of the page. -/
theorem exists_locateIn?_of_locate? (found : locator.locate? page area = some located) :
    ∃ element ∈ page.elements, locator.locateIn? area element = some located := by
  rcases List.exists_of_findSome?_eq_some found with ⟨element, listed, here⟩
  have meets := (SpatialIndex.answers page area).elements.mem_iff.mp listed
  exact ⟨element, (List.mem_filter.mp meets).1, here⟩

theorem exists_of_locate? (found : locator.locate? page area = some located) :
    ∃ element ∈ page.elements, locator.Suits area element ∧
      PatternMatch.evaluate? locator.pattern element.text = some located.found ∧
      locator.Places element located.found located.bounds := by
  rcases exists_locateIn?_of_locate? found with ⟨element, member, here⟩
  exact ⟨element, member, suits_of_locateIn? here⟩

/-- Something is found exactly if an element of the page suits. -/
theorem isSome_locate? [Scalar.Ordered α] :
    (locator.locate? page area).isSome = true ↔
      ∃ element ∈ page.elements, locator.Suits area element := by
  rw [locate?, List.findSome?_isSome_iff]
  simp only [isSome_locateIn?]
  exact exists_congr fun element => suits_answer_iff (SpatialIndex.answers page area)

end

/-! ## Visits -/

/-- Looks at one element, writes down what is found and then stops. -/
def visit (locator : TextLocator) (area : Rect α) (element : Element α) :
    StateT (Option (Located α)) (Except Failure) Visit :=
  if locator.Admits area element then
    match PatternMatch.evaluate? locator.pattern element.text with
    | some found => do
        set (some { bounds := locator.place element found, found : Located α })
        return .stop
    | none => return .onward
  else
    return .onward

/-- The search as a visit of the elements that meet the area. -/
def visitMeeting [SpatialIndex α] (locator : TextLocator) (page : Page α) (area : Rect α) :
    Except Failure (Option (Located α)) := do
  let (_, found) ← (Element.visitAll (locator.visit area) (page.meeting area)).run none
  return found

theorem run_visitAll (elements : List (Element α)) :
    (Element.visitAll (locator.visit area) elements).run none =
      .ok ((), elements.findSome? (locator.locateIn? area)) := by
  induction elements with
  | nil => rfl
  | cons element rest induction =>
      rw [Element.visitAll, List.findSome?_cons, StateT.run_bind, visit, locateIn?]
      by_cases admitted : locator.Admits area element
      · rw [if_pos admitted, if_pos admitted]
        cases PatternMatch.evaluate? locator.pattern element.text with
        | some found => rfl
        -- Nothing has been written down yet, so the rest starts from `none` as well.
        | none => exact induction
      · rw [if_neg admitted, if_neg admitted]
        exact induction

/-- A visit never fails, and it finds what the search finds. -/
theorem visitMeeting_eq [SpatialIndex α] (locator : TextLocator) (page : Page α)
    (area : Rect α) :
    locator.visitMeeting page area = .ok (locator.locate? page area) := by
  rw [visitMeeting, run_visitAll]
  rfl

end TextLocator

end PageSketch
