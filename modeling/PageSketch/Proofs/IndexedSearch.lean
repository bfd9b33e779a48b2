import Mathlib.Data.List.Nodup
import PageSketch.Proofs.CoordinateRange
import PageSketch.Proofs.TextSearch

/-! # Searches with an index

An index may answer in any order. Whatever the order is, a search finds something exactly if
going through all elements of the page does, and what it finds is one of the elements that
suit. A visit of the whole plane comes to each element of a finite page once. -/

namespace PageSketch

/-- The number of the block, and of the line in it. -/
def IndexEntry.key {α : Type} (entry : IndexEntry α) : Nat × Option Nat :=
  (entry.block, entry.line)

namespace Page

variable {α : Type}

/-! ## Entries -/

theorem nodup_numbers {β : Type} (items : List β) : (items.zipIdx.map Prod.snd).Nodup := by
  rw [List.zipIdx_map_snd]
  exact List.nodup_range'

theorem keys_blockEntries (block : Block α) (index : Nat) :
    (blockEntries block index).map IndexEntry.key =
      (none :: (block.lines.zipIdx.map Prod.snd).map some).map (Prod.mk index) := by
  rw [blockEntries, List.map_cons, List.map_cons, List.map_map, List.map_map, List.map_map]
  rfl

theorem nodup_keys_blockEntries (block : Block α) (index : Nat) :
    ((blockEntries block index).map IndexEntry.key).Nodup := by
  have lines : ((block.lines.zipIdx.map Prod.snd).map some).Nodup :=
    (nodup_numbers block.lines).map (Option.some_injective _)
  have places : (none :: (block.lines.zipIdx.map Prod.snd).map some).Nodup :=
    List.nodup_cons.mpr ⟨by simp, lines⟩
  rw [keys_blockEntries]
  exact places.map (Prod.mk_right_injective index)

theorem block_of_mem_keys {block : Block α} {index : Nat} {key : Nat × Option Nat}
    (member : key ∈ (blockEntries block index).map IndexEntry.key) : key.1 = index := by
  rw [keys_blockEntries] at member
  rcases List.mem_map.mp member with ⟨place, _, rfl⟩
  rfl

/-- No element has two entries. -/
theorem nodup_keys (page : Page α) : (page.entries.map IndexEntry.key).Nodup := by
  rw [entries, List.map_flatMap, List.nodup_flatMap]
  constructor
  · rintro ⟨block, index⟩ _
    exact nodup_keys_blockEntries block index
  · have numbers := List.pairwise_map.mp (nodup_numbers page.blocks)
    apply numbers.imp
    intro first second different key here there
    exact different ((block_of_mem_keys here).symm.trans (block_of_mem_keys there))

/-! ## Visits -/

/-- Writes down an element. -/
def record (element : Element α) : StateM (List (Element α)) Visit := do
  modify (· ++ [element])
  return .onward

/-- The elements that come up when the entries of an answer are visited. -/
def visited (page : Page α) (answer : List (IndexEntry α)) : List (Element α) :=
  ((Element.visitAll record (answer.filterMap page.element?)).run []).2

theorem run_visitAll_record (elements seen : List (Element α)) :
    ((Element.visitAll record elements).run seen).2 = seen ++ elements := by
  induction elements generalizing seen with
  | nil => exact (List.append_nil seen).symm
  | cons element rest induction =>
      have later := induction (seen ++ [element])
      rw [List.append_assoc] at later
      exact later

variable [Scalar α] {page : Page α}

/-- In a finite page, a visit of the plane comes to all elements, each as often as it is on
the page. -/
theorem visited_plane [Scalar.Ordered α] [Scalar.Ranged α] {plane : Rect α}
    {answer : List (IndexEntry α)}
    (finite : ∀ element ∈ page.elements, element.bounds.IsFinite)
    (known : Rect.plane? = some plane) (answers : page.Answers plane answer) :
    (page.visited answer).Perm page.elements := by
  have all : (page.elements.filter fun element =>
      element.bounds.envelope.Meets plane.envelope) = page.elements := by
    apply List.filter_eq_self.mpr
    intro element member
    exact decide_eq_true (Rect.meets_plane known (finite element member))
  rw [visited, run_visitAll_record, List.nil_append]
  exact answers.elements.trans (.of_eq all)

end Page

namespace TextLocator

variable {α : Type} [Scalar α] {locator : TextLocator} {page : Page α} {area : Rect α}
  {answer : List (IndexEntry α)}

/-- The search as a visit of what the index answers. -/
def searchAmong (locator : TextLocator) (page : Page α) (area : Rect α)
    (answer : List (IndexEntry α)) : Except Failure (Option (Located α)) := do
  let (_, found) ←
    (Element.visitAll (locator.visit area) (answer.filterMap page.element?)).run none
  return found

theorem searchAmong_eq (locator : TextLocator) (page : Page α) (area : Rect α)
    (answer : List (IndexEntry α)) :
    locator.searchAmong page area answer =
      .ok ((answer.filterMap page.element?).findSome? (locator.locateIn? area)) := by
  rw [searchAmong, run_visitAll]
  rfl

/-- What is found is what going through all elements of the page tells: something exactly if
an element suits, and then the text, the match and the place in such an element. -/
structure Finds (locator : TextLocator) (page : Page α) (area : Rect α)
    (found? : Option (Located α)) : Prop where
  some_iff : found?.isSome = true ↔ ∃ element ∈ page.elements, locator.Suits area element
  located : ∀ located, found? = some located → ∃ element ∈ page.elements,
    locator.Suits area element ∧ located.text = element.text ∧
      PatternMatch.evaluate? locator.pattern element.text = some located.found ∧
      locator.Places element located.found located.bounds

theorem finds_of_answers [Scalar.Ordered α] (answers : page.Answers area answer) :
    locator.Finds page area
      ((answer.filterMap page.element?).findSome? (locator.locateIn? area)) where
  some_iff := by
    rw [List.findSome?_isSome_iff]
    simp only [isSome_locateIn?]
    exact exists_congr fun element => suits_answer_iff answers
  located located found := by
    rcases List.exists_of_findSome?_eq_some found with ⟨element, listed, here⟩
    rcases suits_of_locateIn? here with ⟨suits, evaluated, placed⟩
    have member := (suits_answer_iff answers).mp ⟨listed, suits⟩
    have text : located.text = element.text := PatternMatch.text_of_evaluate? evaluated
    exact ⟨element, member.1, suits, text, evaluated, placed⟩

end TextLocator

namespace Page

variable {α : Type} [Scalar α] [SpatialIndex α]

theorem visited_answer_plane {page : Page α} {plane : Rect α}
    (known : Rect.plane? = some plane) :
    page.visited (SpatialIndex.answer page plane) = page.meetingPlane := by
  rw [visited, run_visitAll_record, List.nil_append, meetingPlane, known]
  rfl

/-- The entries of the index correspond to the elements one to one. In whatever order it
answers, a search finds what going through all elements tells, and a visit of the plane comes
to every element of a finite page once. -/
theorem index_agrees_with_elements [Scalar.Ordered α] [Scalar.Ranged α] (page : Page α) :
    List.Forall₂ page.Indexes page.entries page.elements ∧
      (page.entries.map IndexEntry.key).Nodup ∧
      (∀ area answer, page.Answers area answer →
        (∀ entry ∈ answer, ∃ element ∈ page.elements, page.element? entry = some element) ∧
          ∀ locator : TextLocator, ∃ found?,
            locator.searchAmong page area answer = .ok found? ∧
              locator.Finds page area found?) ∧
      (∀ (locator : TextLocator) (area : Rect α),
        locator.searchAmong page area (SpatialIndex.answer page area) =
          .ok (locator.locate? page area)) ∧
      ∀ plane, Rect.plane? = some plane →
        page.visited (SpatialIndex.answer page plane) = page.meetingPlane ∧
          ((∀ element ∈ page.elements, element.bounds.IsFinite) →
            ∀ answer, page.Answers plane answer →
              (page.visited answer).Perm page.elements) := by
  refine ⟨page.indexes_entries, page.nodup_keys, fun area answer answers => ⟨?_, ?_⟩, ?_,
    fun plane known => ⟨visited_answer_plane known, ?_⟩⟩
  · exact fun entry member => answers.exists_element member
  · intro locator
    exact ⟨_, locator.searchAmong_eq page area answer, TextLocator.finds_of_answers answers⟩
  · exact fun locator area => locator.searchAmong_eq page area (SpatialIndex.answer page area)
  · exact fun finite answer answers => visited_plane finite known answers

end Page

/-! ## A page with an inverted block -/

namespace UpturnedPage

/-- The block goes from its lower right corner to its upper left one, its line does not. -/
def page : Page Float where
  number := (1 : UInt64).toFin
  size := ⟨⟨100⟩, ⟨100⟩⟩
  blocks := [{
    bounds := ⟨⟨40⟩, ⟨40⟩, ⟨10⟩, ⟨10⟩⟩
    lines := [⟨⟨⟨10⟩, ⟨10⟩, ⟨20⟩, ⟨20⟩⟩, [⟨'B', ⟨⟨10⟩, ⟨10⟩, ⟨20⟩, ⟨20⟩⟩⟩]⟩] }]

def plane : Rect Float :=
  ⟨⟨-Scalar.Binary.largest⟩, ⟨-Scalar.Binary.largest⟩, ⟨Scalar.Binary.largest⟩,
    ⟨Scalar.Binary.largest⟩⟩

/-- The index answers with the line first. -/
def answer : List (IndexEntry Float) := page.entries.reverse

def locator : TextLocator := ⟨.line, (Pattern.read? "B").get (by decide +kernel), false⟩

theorem answers : page.Answers plane answer := by
  have all : page.hits plane = page.entries := by decide +kernel
  rw [Page.Answers, all]
  exact List.reverse_perm _

theorem finite : ∀ element ∈ page.elements, element.bounds.IsFinite := by
  intro element member side
  have coordinates : ∀ element ∈ page.elements, ∀ side ∈ Side.all,
      (element.bounds.side side).isFinite = true := by
    decide +kernel
  exact coordinates element member side side.mem_all

theorem suits : ∃ element ∈ page.elements, locator.Suits plane element := by
  refine ⟨.line ⟨⟨⟨10⟩, ⟨10⟩, ⟨20⟩, ⟨20⟩⟩, [⟨'B', ⟨⟨10⟩, ⟨10⟩, ⟨20⟩, ⟨20⟩⟩⟩]⟩, ?_, ?_, ?_⟩
  · simp [page, Page.elements]
  · decide +kernel
  · decide +kernel

end UpturnedPage

theorem Page.index_agrees_with_elements_upturned :
    UpturnedPage.page.Answers UpturnedPage.plane UpturnedPage.answer ∧
      (∃ located, UpturnedPage.locator.searchAmong UpturnedPage.page UpturnedPage.plane
        UpturnedPage.answer = .ok (some located)) ∧
      (UpturnedPage.page.visited UpturnedPage.answer).Perm UpturnedPage.page.elements := by
  rcases Page.index_agrees_with_elements UpturnedPage.page with ⟨_, _, searches, _, planes⟩
  have whole := (planes UpturnedPage.plane rfl).2 UpturnedPage.finite _ UpturnedPage.answers
  rcases (searches _ _ UpturnedPage.answers).2 UpturnedPage.locator with ⟨found?, result, finds⟩
  have some := finds.some_iff.mpr UpturnedPage.suits
  rcases Option.isSome_iff_exists.mp some with ⟨located, rfl⟩
  exact ⟨UpturnedPage.answers, ⟨located, result⟩, whole⟩

end PageSketch
