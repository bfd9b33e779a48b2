import Mathlib.Data.List.Chain
import PageSketch.Content.Page
import PageSketch.Proofs.PlaceComparison

/-! # Sorting by a comparison that is no order

Places do not compare transitively, so there may be no way to sort rectangles at all. Insertion
sort still ends with a list in which no two neighbors are in the wrong order, as long as the
comparison turns around when they are swapped. Where the places can be sorted, it does so, and
keeps what compares equal in the given order. -/

namespace PageSketch

section Insertion

variable {β : Type} {compare : β → β → Ordering} {items : List β} {item : β}

/-! ## One insertion -/

theorem insertFromEnd_spec (compare : β → β → Ordering) (item : β) (sorted : List β) :
    ∃ later earlier, sorted = later ++ earlier ∧
      insertFromEnd compare item sorted = later ++ item :: earlier ∧
      (∀ other ∈ later, compare other item = .gt) ∧
      ∀ last ∈ earlier.head?, compare last item ≠ .gt := by
  induction sorted with
  | nil => exact ⟨[], [], rfl, rfl, nofun, nofun⟩
  | cons last sorted induction =>
      rw [insertFromEnd]
      by_cases after : compare last item = .gt
      · rcases induction with ⟨later, earlier, rfl, inserted, passed, stopped⟩
        refine ⟨last :: later, earlier, rfl, ?_, ?_, stopped⟩
        · rw [if_pos after, inserted, List.cons_append]
        · exact List.forall_mem_cons.mpr ⟨after, passed⟩
      · rw [if_neg after]
        refine ⟨[], last :: sorted, rfl, rfl, nofun, ?_⟩
        rintro _ ⟨⟩
        exact after

/-- The last item is put before all items at the end that compare greater. -/
theorem insertionSort_concat (compare : β → β → Ordering) (items : List β) (item : β) :
    ∃ earlier later, insertionSort compare items = earlier ++ later ∧
      insertionSort compare (items ++ [item]) = earlier ++ item :: later ∧
      (∀ last ∈ earlier.getLast?, compare last item ≠ .gt) ∧
      ∀ other ∈ later, compare other item = .gt := by
  rw [insertionSort, insertionSort, List.foldl_append, List.foldl_cons, List.foldl_nil]
  generalize List.foldl _ [] items = sorted
  rcases insertFromEnd_spec compare item sorted with
    ⟨later, earlier, rfl, inserted, passed, stopped⟩
  refine ⟨earlier.reverse, later.reverse, List.reverse_append, ?_, ?_, ?_⟩
  · rw [inserted, List.reverse_append, List.reverse_cons, List.append_assoc, List.singleton_append]
  · rw [List.getLast?_reverse]
    exact stopped
  · intro other member
    exact passed other (List.mem_reverse.mp member)

/-! ## The whole sort -/

theorem perm_insertionSort (compare : β → β → Ordering) (items : List β) :
    (insertionSort compare items).Perm items := by
  induction items using List.reverseRecOn with
  | nil => exact .nil
  | append_singleton items item induction =>
      rcases insertionSort_concat compare items item with ⟨earlier, later, sorted, next, _, _⟩
      rw [sorted] at induction
      rw [next]
      exact List.perm_middle.trans
        ((induction.cons item).trans (List.perm_append_singleton item items).symm)

theorem mem_of_insertionSort_eq_append {earlier later : List β} {other : β}
    (sorted : insertionSort compare items = earlier ++ later) (listed : other ∈ later) :
    other ∈ items :=
  (perm_insertionSort compare items).mem_iff.mp (sorted ▸ List.mem_append_right _ listed)

/-- No two neighbors are in the wrong order. -/
theorem isChain_insertionSort
    (apart : ∀ a ∈ items, ∀ b ∈ items, compare a b = .gt → compare b a ≠ .gt) :
    (insertionSort compare items).IsChain fun a b => compare a b ≠ .gt := by
  induction items using List.reverseRecOn with
  | nil => exact .nil
  | append_singleton items item induction =>
      rcases insertionSort_concat compare items item with
        ⟨earlier, later, sorted, next, stopped, passed⟩
      have inner := induction fun a memberA b memberB =>
        apart a (List.mem_append_left _ memberA) b (List.mem_append_left _ memberB)
      rw [sorted, List.isChain_append] at inner
      rcases inner with ⟨before, after, _⟩
      rw [next, List.isChain_append, List.isChain_cons]
      refine ⟨before, ⟨fun first member => ?_, after⟩, ?_⟩
      · -- What was passed over compares greater than the item, so the item does not.
        have listed := List.mem_of_mem_head? member
        have known := mem_of_insertionSort_eq_append sorted listed
        exact apart first (List.mem_append_left _ known) item (List.mem_append_right _ (.head _))
          (passed first listed)
      · rintro last member _ ⟨⟩
        exact stopped last member

/-- A list in which no two neighbors are in the wrong order stays as it is. -/
theorem insertionSort_eq_self (chain : items.IsChain fun a b => compare a b ≠ .gt) :
    insertionSort compare items = items := by
  induction items using List.reverseRecOn with
  | nil => rfl
  | append_singleton items item induction =>
      rcases List.isChain_append.mp chain with ⟨inner, _, junction⟩
      rcases insertionSort_concat compare items item with
        ⟨earlier, later, sorted, next, _, passed⟩
      rw [induction inner] at sorted
      rcases later.eq_nil_or_concat' with rfl | ⟨front, last, rfl⟩
      · rw [next, sorted, List.append_nil]
      · have final : last ∈ items.getLast? := by
          rw [sorted, ← List.append_assoc, List.getLast?_concat]
          exact rfl
        exact absurd (passed last (by simp)) (junction last final item rfl)

/-! ## Stability -/

/-- Items of a kind keep their order if none of them compares greater than another one. -/
theorem filter_insertionSort {kind : β → Bool}
    (level : ∀ a ∈ items, ∀ b ∈ items, kind a = true → kind b = true → compare a b ≠ .gt) :
    (insertionSort compare items).filter kind = items.filter kind := by
  induction items using List.reverseRecOn with
  | nil => rfl
  | append_singleton items item induction =>
      rcases insertionSort_concat compare items item with
        ⟨earlier, later, sorted, next, _, passed⟩
      have inner := induction fun a memberA b memberB =>
        level a (List.mem_append_left _ memberA) b (List.mem_append_left _ memberB)
      rw [sorted, List.filter_append] at inner
      rw [next, List.filter_append, List.filter_append, ← inner]
      cases chosen : kind item with
      | false =>
          rw [List.filter_cons_of_neg (by simp [chosen]),
            List.filter_cons_of_neg (by simp [chosen]), List.filter_nil, List.append_nil]
      | true =>
          have none : later.filter kind = [] := by
            refine List.filter_eq_nil_iff.mpr fun other listed same => ?_
            have known := mem_of_insertionSort_eq_append sorted listed
            exact level other (List.mem_append_left _ known) item
              (List.mem_append_right _ (.head _)) same chosen (passed other listed)
          rw [List.filter_cons_of_pos chosen, List.filter_cons_of_pos chosen, none,
            List.filter_nil, List.append_nil]

/-- Two items may stand in either order. -/
def alike (le : β → β → Bool) (a b : β) : Bool := le a b && le b a

section Order

variable {le : β → β → Bool} {first second : List β}

theorem mem_of_filter_alike_eq (refl : ∀ a, le a a = true)
    (same : ∀ a, first.filter (alike le a) = second.filter (alike le a)) {a : β}
    (member : a ∈ first) : a ∈ second := by
  have chosen : a ∈ first.filter (alike le a) :=
    List.mem_filter.mpr ⟨member, by rw [alike, refl, Bool.and_self]⟩
  rw [same] at chosen
  exact (List.mem_filter.mp chosen).1

theorem le_of_mem_cons (refl : ∀ a, le a a = true) {a b : β}
    (sorted : (a :: first).Pairwise fun a b => le a b = true) (member : b ∈ a :: first) :
    le a b = true := by
  rcases List.mem_cons.mp member with rfl | later
  · exact refl b
  · exact (List.pairwise_cons.mp sorted).1 b later

/-- A list in order is told by the order of what is alike. -/
theorem eq_of_filter_alike_eq (refl : ∀ a, le a a = true)
    (sortedFirst : first.Pairwise fun a b => le a b = true)
    (sortedSecond : second.Pairwise fun a b => le a b = true)
    (same : ∀ a, first.filter (alike le a) = second.filter (alike le a)) : first = second := by
  have back := fun a => (same a).symm
  induction first generalizing second with
  | nil =>
      cases second with
      | nil => rfl
      | cons b second => exact absurd (mem_of_filter_alike_eq refl back List.mem_cons_self) nofun
  | cons a first induction =>
      cases second with
      | nil => exact absurd (mem_of_filter_alike_eq refl same List.mem_cons_self) nofun
      | cons b second =>
          have forward := le_of_mem_cons refl sortedFirst
            (mem_of_filter_alike_eq refl back List.mem_cons_self)
          have backward := le_of_mem_cons refl sortedSecond
            (mem_of_filter_alike_eq refl same List.mem_cons_self)
          have heads := same a
          rw [List.filter_cons_of_pos (by rw [alike, refl, Bool.and_self]),
            List.filter_cons_of_pos (by rw [alike, forward, backward, Bool.and_self])] at heads
          rcases (List.cons.injEq ..).mp heads with ⟨rfl, _⟩
          have rest : ∀ c, first.filter (alike le c) = second.filter (alike le c) := by
            intro c
            have whole := same c
            by_cases equal : alike le c a = true
            · rw [List.filter_cons_of_pos equal, List.filter_cons_of_pos equal] at whole
              exact List.tail_eq_of_cons_eq whole
            · rw [List.filter_cons_of_neg equal, List.filter_cons_of_neg equal] at whole
              exact whole
          rw [induction (List.pairwise_cons.mp sortedFirst).2 (List.pairwise_cons.mp sortedSecond).2
            rest fun c => (rest c).symm]

end Order

section Stability

variable {le : β → β → Bool}

theorem le_of_alike (trans : ∀ a b c, le a b = true → le b c = true → le a c = true) {a b c : β}
    (first : alike le a b = true) (second : alike le a c = true) : le b c = true := by
  rw [alike, Bool.and_eq_true] at first second
  exact trans b a c first.2 second.1

/-- Stable sorting keeps the order of what is alike. -/
theorem filter_mergeSort (trans : ∀ a b c, le a b = true → le b c = true → le a c = true)
    (total : ∀ a b, (le a b || le b a) = true) (a : β) :
    (items.mergeSort le).filter (alike le a) = items.filter (alike le a) := by
  have sorted : (items.filter (alike le a)).Pairwise fun b c => le b c = true :=
    List.pairwise_iff_forall_sublist.mpr fun {b c} pair =>
      le_of_alike trans (List.mem_filter.mp (pair.subset (by simp))).2
        (List.mem_filter.mp (pair.subset (by simp))).2
  have kept := (List.sublist_mergeSort trans total sorted List.filter_sublist).filter (alike le a)
  rw [List.filter_filter] at kept
  simp only [Bool.and_self] at kept
  exact (kept.eq_of_length ((List.mergeSort_perm items le).filter _).length_eq.symm).symm

end Stability

/-- If items can be sorted at all, then insertion is stable sorting. -/
theorem insertionSort_eq_mergeSort (compare : β → β → Ordering)
    (apart : ∀ a b, compare a b = .gt → compare b a ≠ .gt)
    (trans : ∀ a b c, compare a b ≠ .gt → compare b c ≠ .gt → compare a c ≠ .gt)
    (items : List β) :
    insertionSort compare items = items.mergeSort fun a b => compare a b ≠ .gt := by
  have transitive : ∀ a b c, decide (compare a b ≠ .gt) = true → decide (compare b c ≠ .gt) = true →
      decide (compare a c ≠ .gt) = true := by
    simpa only [decide_eq_true_eq] using trans
  have total : ∀ a b, (decide (compare a b ≠ .gt) || decide (compare b a ≠ .gt)) = true := by
    intro a b
    rw [Bool.or_eq_true, decide_eq_true_eq, decide_eq_true_eq]
    by_cases after : compare a b = .gt
    · exact .inr (apart a b after)
    · exact .inl after
  have refl : ∀ a, decide (compare a a ≠ .gt) = true := by
    intro a
    exact (Bool.or_self _).symm.trans (total a a)
  refine eq_of_filter_alike_eq refl ?_ (List.pairwise_mergeSort transitive total items) fun a => ?_
  · have chain := isChain_insertionSort fun a (_ : a ∈ items) b _ => apart a b
    have : Trans (fun a b => compare a b ≠ .gt) (fun a b => compare a b ≠ .gt)
        (fun a b => compare a b ≠ .gt) := ⟨trans _ _ _⟩
    simpa only [decide_eq_true_eq] using List.isChain_iff_pairwise.mp chain
  · rw [filter_mergeSort transitive total, filter_insertionSort]
    intro b _ c _ first second
    exact of_decide_eq_true (le_of_alike transitive first second)

theorem map_insertFromEnd {γ : Type} (compare : γ → γ → Ordering) (value : β → γ) (item : β)
    (sorted : List β) :
    (insertFromEnd (fun a b => compare (value a) (value b)) item sorted).map value =
      insertFromEnd compare (value item) (sorted.map value) := by
  induction sorted with
  | nil => rfl
  | cons last sorted induction =>
      rw [List.map_cons, insertFromEnd, insertFromEnd]
      split
      · rw [List.map_cons, induction]
      · rw [List.map_cons, List.map_cons]

/-- Only what is compared matters. -/
theorem map_insertionSort {γ : Type} (compare : γ → γ → Ordering) (value : β → γ)
    (items : List β) :
    (insertionSort (fun a b => compare (value a) (value b)) items).map value =
      insertionSort compare (items.map value) := by
  rw [insertionSort, insertionSort, List.map_reverse, List.foldl_map]
  congr 1
  exact (List.foldl_hom (List.map value)
    fun sorted item => (map_insertFromEnd compare value item sorted).symm).symm

/-- It is enough that the items of the list can be sorted. -/
theorem insertionSort_eq_mergeSort_of_mem
    (apart : ∀ a ∈ items, ∀ b ∈ items, compare a b = .gt → compare b a ≠ .gt)
    (trans : ∀ a ∈ items, ∀ b ∈ items, ∀ c ∈ items,
      compare a b ≠ .gt → compare b c ≠ .gt → compare a c ≠ .gt) :
    insertionSort compare items = items.mergeSort fun a b => compare a b ≠ .gt := by
  have attached := insertionSort_eq_mergeSort
    (fun a b : { item // item ∈ items } => compare a.1 b.1)
    (fun a b => apart a.1 a.2 b.1 b.2) (fun a b c => trans a.1 a.2 b.1 b.2 c.1 c.2) items.attach
  have values := congrArg (List.map Subtype.val) attached
  rw [map_insertionSort compare Subtype.val,
    List.map_mergeSort (s := fun a b => compare a b ≠ .gt) fun _ _ _ _ => rfl,
    List.attach_map_subtype_val] at values
  exact values

end Insertion

/-! ## Reading order -/

/-- All blocks and all lines are there once. -/
theorem Page.perm_elements {α : Type} (page : Page α) :
    page.elements.Perm
      (page.blocks.map .block ++ (page.blocks.flatMap (·.lines)).map .line) := by
  rw [Page.elements]
  induction page.blocks with
  | nil => exact .nil
  | cons block rest induction =>
      rw [List.flatMap_cons, List.flatMap_cons, List.map_cons, List.map_append, List.cons_append,
        List.cons_append]
      refine .cons _ ((induction.append_left _).trans ?_)
      rw [← List.append_assoc, ← List.append_assoc]
      exact List.perm_append_comm.append_right _

section ReadingOrder

variable {α β : Type} [Scalar α] {direction : ReadingDirection} {bounds : β → Rect α}
  {items : List β}

theorem perm_sortReadingOrder (direction : ReadingDirection) (bounds : β → Rect α)
    (items : List β) : (sortReadingOrder direction bounds items).Perm items :=
  perm_insertionSort _ items

variable [Scalar.Ordered α]

theorem compare_ne_gt_of_eq_gt {a b : Rect α} (centeredA : a.IsCentered) (centeredB : b.IsCentered)
    (after : direction.compare a b = .gt) : direction.compare b a ≠ .gt := by
  rw [ReadingDirection.compare_swap centeredA centeredB, after]
  decide

/-- It is enough that all rectangles have their centers between their edges, in whatever way
these are rounded. -/
theorem sortReadingOrder_of_isCentered (centered : ∀ item ∈ items, (bounds item).IsCentered) :
    ((sortReadingOrder direction bounds items).IsChain fun a b =>
        direction.compare (bounds a) (bounds b) ≠ .gt) ∧
      sortReadingOrder direction bounds (sortReadingOrder direction bounds items) =
        sortReadingOrder direction bounds items ∧
      ((∀ a ∈ items, ∀ b ∈ items, ∀ c ∈ items, direction.compare (bounds a) (bounds b) ≠ .gt →
          direction.compare (bounds b) (bounds c) ≠ .gt →
          direction.compare (bounds a) (bounds c) ≠ .gt) →
        sortReadingOrder direction bounds items =
          items.mergeSort fun a b => direction.compare (bounds a) (bounds b) ≠ .gt) := by
  have apart : ∀ a ∈ items, ∀ b ∈ items, direction.compare (bounds a) (bounds b) = .gt →
      direction.compare (bounds b) (bounds a) ≠ .gt :=
    fun a memberA b memberB => compare_ne_gt_of_eq_gt (centered a memberA) (centered b memberB)
  have chain := isChain_insertionSort apart
  exact ⟨chain, insertionSort_eq_self chain, insertionSort_eq_mergeSort_of_mem apart⟩

end ReadingOrder

/-- A rectangle ten wide. -/
def tile (left top bottom : Rat) : Rect Rat := ⟨⟨left⟩, ⟨top⟩, ⟨left + 10⟩, ⟨bottom⟩⟩

/-- In every direction, there are three rectangles of which each stands before the next one in
the same row, while the last one stands in a row before the first one. -/
theorem exists_not_transitive (direction : ReadingDirection) :
    ∃ a b c : Rect Rat, a.IsNormalized ∧ b.IsNormalized ∧ c.IsNormalized ∧
      direction.compare a b = .lt ∧ direction.compare b c = .lt ∧ direction.compare a c = .gt := by
  -- The middle one shares a row with both others, which do not reach each other.
  rcases direction with ⟨_ | _, _ | _⟩
  · exact ⟨tile 0 20 30, tile 20 13 27, tile 40 8 20, by decide +kernel⟩
  · exact ⟨tile 40 20 30, tile 20 13 27, tile 0 8 20, by decide +kernel⟩
  · exact ⟨tile 0 8 20, tile 20 13 27, tile 40 20 30, by decide +kernel⟩
  · exact ⟨tile 40 8 20, tile 20 13 27, tile 0 20 30, by decide +kernel⟩

/-- Sorting ends with every item once, whatever the rectangles are, and so every block and every
line of a page is listed once. The comparison is not transitive. Without rounding, normalized
rectangles still end up such that no two neighbors are in the wrong order. Sorting them again
changes nothing, and if the comparison orders them, then what has been done is stable sorting. -/
theorem sortReadingOrder_spec :
    (∀ {α β : Type} [Scalar α] (direction : ReadingDirection) (bounds : β → Rect α)
        (items : List β), (sortReadingOrder direction bounds items).Perm items) ∧
      (∀ {α : Type} [Scalar α] (page : Page α), page.elementsInReadingOrder.Perm
        (page.blocks.map .block ++ (page.blocks.flatMap (·.lines)).map .line)) ∧
      ∀ direction : ReadingDirection,
        (∃ a b c : Rect Rat, a.IsNormalized ∧ b.IsNormalized ∧ c.IsNormalized ∧
          direction.compare a b = .lt ∧ direction.compare b c = .lt ∧
          direction.compare a c = .gt) ∧
        ∀ {β : Type} (bounds : β → Rect Rat) (items : List β),
          (∀ item ∈ items, (bounds item).IsNormalized) →
          ((sortReadingOrder direction bounds items).IsChain fun a b =>
              direction.compare (bounds a) (bounds b) ≠ .gt) ∧
            sortReadingOrder direction bounds (sortReadingOrder direction bounds items) =
              sortReadingOrder direction bounds items ∧
            ((∀ a ∈ items, ∀ b ∈ items, ∀ c ∈ items,
                direction.compare (bounds a) (bounds b) ≠ .gt →
                direction.compare (bounds b) (bounds c) ≠ .gt →
                direction.compare (bounds a) (bounds c) ≠ .gt) →
              sortReadingOrder direction bounds items =
                items.mergeSort fun a b => direction.compare (bounds a) (bounds b) ≠ .gt) := by
  refine ⟨perm_sortReadingOrder, fun page => ?_, fun direction => ?_⟩
  · exact (perm_sortReadingOrder {} Element.bounds page.elements).trans page.perm_elements
  · refine ⟨exists_not_transitive direction, fun bounds items normalized => ?_⟩
    refine sortReadingOrder_of_isCentered fun item member => ?_
    exact (Rect.isCentered_iff fun _ => rfl).mpr ⟨normalized item member, rfl, rfl⟩

/-- Two rectangles in a row, the right one first, and one in the row above. -/
def tiles : List (Rect Rat) := [tile 30 41 51, tile 0 40 50, tile 15 0 10]

theorem sortReadingOrder_spec_tiles :
    (∀ rect ∈ tiles, rect.IsNormalized) ∧
      ((sortReadingOrder {} id tiles).IsChain fun a b =>
        ReadingDirection.compare {} a b ≠ .gt) ∧
      sortReadingOrder {} id tiles =
        tiles.mergeSort (fun a b => ReadingDirection.compare {} a b ≠ .gt) ∧
      sortReadingOrder {} id tiles = tiles.reverse := by
  have normalized : ∀ rect ∈ tiles, rect.IsNormalized := by decide +kernel
  rcases (sortReadingOrder_spec.2.2 {}).2 id tiles normalized with ⟨chain, _, stable⟩
  exact ⟨normalized, chain, stable (by decide +kernel), by decide +kernel⟩

end PageSketch
