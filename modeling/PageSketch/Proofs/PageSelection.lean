import Mathlib.Data.List.Perm.Basic
import Mathlib.Data.List.Sort
import PageSketch.Document
import PageSketch.Proofs.Outcomes
import PageSketch.Proofs.Timelines

/-! # Pages of numbered documents

If the pages of a document are numbered from one, the range of a number gives the page at
that position, if there is one, and the range of everything gives all pages. -/

namespace PageSketch

namespace Page

variable {α : Type} {pages : List (Page α)}

/-- The pages are numbered from one in their order. There are no more than memory can hold. -/
structure Numbered (pages : List (Page α)) : Prop where
  numbers : pages.map (fun page => page.number.val) = List.range' 1 pages.length
  fits : pages.length < 9223372036854775808

theorem pairwise_sortByNumber (pages : List (Page α)) :
    (sortByNumber pages).Pairwise fun a b => a.number.val ≤ b.number.val := by
  have sorted := @List.pairwise_mergeSort (Page α) (fun a b => a.number ≤ b.number)
    (fun a b c first second =>
      decide_eq_true (le_trans (of_decide_eq_true first) (of_decide_eq_true second)))
    (fun a b => by simpa using le_total a.number b.number) pages
  exact sorted.imp fun order => of_decide_eq_true order

theorem sortByNumber_perm (pages : List (Page α)) : (sortByNumber pages).Perm pages :=
  List.mergeSort_perm pages _

/-- Sorting puts numbers in order that go from one without gaps. -/
theorem numbers_sortByNumber
    (numbers : (pages.map fun page => page.number.val).Perm (List.range' 1 pages.length)) :
    (sortByNumber pages).map (fun page => page.number.val) = List.range' 1 pages.length := by
  have ascending : ((sortByNumber pages).map fun page => page.number.val).Pairwise (· ≤ ·) :=
    List.pairwise_map.mpr (pairwise_sortByNumber pages)
  have counting : (List.range' 1 pages.length).Pairwise (· ≤ ·) :=
    (List.pairwise_lt_range' ..).imp Nat.le_of_lt
  exact List.Perm.eq_of_pairwise' ascending counting
    (((sortByNumber_perm pages).map _).trans numbers)

theorem numbered_sortByNumber
    (numbers : (pages.map fun page => page.number.val).Perm (List.range' 1 pages.length))
    (fits : pages.length < 9223372036854775808) : Numbered (sortByNumber pages) := by
  have same := (sortByNumber_perm pages).length_eq
  exact ⟨same ▸ numbers_sortByNumber numbers, same ▸ fits⟩

/-- Of pages whose numbers go from `start` without gaps, those with numbers from `low` to `high`
stand together. -/
theorem filter_between {start : Nat} (low high : Nat)
    (numbers : pages.map (fun page => page.number.val) = List.range' start pages.length) :
    pages.filter (fun page => low ≤ page.number.val ∧ page.number.val ≤ high) =
      (pages.take (high + 1 - start)).drop (low - start) := by
  induction pages generalizing start with
  | nil => simp
  | cons page rest induction =>
      rw [List.map_cons, List.length_cons, List.range'_succ] at numbers
      injection numbers with first others
      rw [List.filter_cons, first, induction others]
      rcases Nat.lt_or_ge high start with above | below
      · -- This page has too large a number, and so have all others.
        have none : high + 1 - start = 0 := by omega
        have noneLater : high + 1 - (start + 1) = 0 := by omega
        rw [none, noneLater, if_neg (by simp only [decide_eq_true_eq]; omega), List.take_zero,
          List.take_zero, List.drop_nil, List.drop_nil]
      · have more : high + 1 - start = high + 1 - (start + 1) + 1 := by omega
        rw [more, List.take_succ_cons]
        rcases Nat.lt_or_ge start low with early | reached
        · have later : low - start = low - (start + 1) + 1 := by omega
          rw [later, List.drop_succ_cons, if_neg (by simp only [decide_eq_true_eq]; omega)]
        · have here : low - start = 0 := by omega
          have hereLater : low - (start + 1) = 0 := by omega
          rw [here, hereLater, if_pos (by simp only [decide_eq_true_eq]; omega), List.drop_zero,
            List.drop_zero]

/-- Of pages that are numbered from one, a range gives those between its ends. -/
theorem select_eq_slice {range : PageRange} (counted : range.isLastOnly = false)
    (numbers : pages.map (fun page => page.number.val) = List.range' 1 pages.length) :
    select range pages = (pages.take range.upper.val).drop (range.lower.val - 1) := by
  rw [select, counted, if_neg Bool.false_ne_true, ← Nat.add_sub_cancel range.upper.val 1,
    ← filter_between _ _ numbers]
  refine List.filter_congr fun page _ => ?_
  rw [PageRange.contains, counted, Bool.not_false, Bool.true_and, Bool.decide_and]

namespace Numbered

theorem select_all (numbered : Numbered pages) : select .all pages = pages := by
  have counted : PageRange.all.isLastOnly = false := by decide
  have enough : pages.length ≤ PageRange.all.upper.val := by
    have fits := numbered.fits
    change pages.length ≤ 2 ^ 64 - 1
    omega
  rw [select_eq_slice counted numbered.numbers, List.take_of_length_le enough]
  rfl

theorem select_single (numbered : Numbered pages) {number : PageNumber} {index : Nat}
    (position : number.val = index + 1) (close : index ≤ pages.length) :
    ∃ range, PageRange.single number = .ok range ∧
      select range pages = pages[index]?.toList := by
  have small := numbered.fits
  have low : 1 ≤ number.val := by omega
  refine ⟨⟨number, number, low, le_refl number⟩, ?_, ?_⟩
  · rw [PageRange.single, PageRange.ofEnds, dif_pos low, dif_pos (le_refl number)]
  · have apart : number ≠ .last := by
      intro same
      have value : number.val = 2 ^ 64 - 1 := congrArg Fin.val same
      omega
    have counted : PageRange.isLastOnly ⟨number, number, low, le_refl number⟩ = false :=
      decide_eq_false apart
    rw [select_eq_slice counted numbered.numbers, position, Nat.add_sub_cancel, List.drop_take,
      Nat.add_sub_cancel_left, List.take_one, List.head?_drop]

end Numbered

end Page

namespace Document

variable {α : Type} [Scalar α] {pages : List (Page α)} {contents : Option ByteArray}
  {token : CancelToken} {timeline : Timeline}

/-- The pages that a document has, if its file has these contents when it is first read. -/
inductive Holds (contents : Option ByteArray) : Document α → List (Page α) → Prop
  | memory {pages : List (Page α)} {validationFault : Option String} :
      Holds contents (.memory pages validationFault none) pages
  | loaded {path : String} {pages : List (Page α)} :
      Holds contents (.file { path, loaded := some pages }) pages
  | unread {path : String} {pages : List (Page α)}
      (parsed : FileSource.parse contents = .ok pages) :
      Holds contents (.file { path }) pages

omit [Scalar α] in
theorem follow_checkPage (passed : ∀ index, token.check (timeline index) = .ok ())
    (pages : List (Page α)) :
    (timeline.follow (Signals.inTurn Timeline.look (checkPage token) pages).run).1 =
      .ok pages := by
  have each : ∀ entry ∈ pages.zipIdx,
      checkPage token (timeline entry.2) entry.1 = (pure entry.1 : Except Failure (Page α)) := by
    intro entry _
    rw [checkPage, passed]
    rfl
  rw [Timeline.follow_inTurn, Steps.mapM_congr each, List.mapM_pure, List.zipIdx_map_fst]
  rfl

theorem Holds.sourcePages {document : Document α} (holds : document.Holds contents pages)
    (passed : ∀ index, token.check (timeline index) = .ok ()) (range : PageRange) :
    ∃ next looks, timeline.follow
        (document.sourcePagesWith Timeline.look contents token range) =
          ((.ok (Page.select range pages), next), timeline.later looks) ∧
      ∀ contents, next.Holds contents pages := by
  cases holds with
  | memory => exact ⟨_, 0, by rw [Timeline.later_zero]; rfl, fun _ => .memory⟩
  | @loaded path =>
      refine ⟨.file { path, loaded := some pages }, 1, ?_, fun _ => .loaded⟩
      rw [sourcePagesWith, Timeline.follow_bind, Timeline.follow_look]
      simp only [FileSource.parsePages, passed 0, FileSource.load]
      rfl
  | @unread path _ parsed =>
      refine ⟨.file { path, loaded := some pages }, 1, ?_, fun _ => .loaded⟩
      rw [sourcePagesWith, Timeline.follow_bind, Timeline.follow_look]
      simp only [FileSource.parsePages, passed 0, FileSource.load, parsed]
      rfl

/-- If nothing stops the work, the pages of a range are selected from those that the document
has, and it has them for good. -/
theorem Holds.parsePages {document : Document α} (holds : document.Holds contents pages)
    (passed : ∀ index, token.check (timeline index) = .ok ()) (range : PageRange) :
    ∃ next, document.parsePages contents token timeline range =
        (.ok (Page.select range pages), next) ∧
      ∀ contents, next.Holds contents pages := by
  have passedLater (looks : Nat) : ∀ index, token.check (timeline.later looks index) = .ok () :=
    fun index => passed (looks + index)
  rcases holds.sourcePages (passedLater 1) range with ⟨next, looks, selected, kept⟩
  refine ⟨next, ?_, kept⟩
  rw [Document.parsePages, parsePagesWith, Timeline.follow_bind, Timeline.follow_look]
  simp only [passed 0]
  rw [Timeline.follow_bind, selected]
  rw [Timeline.later_later]
  exact congrArg (·, next) (follow_checkPage (passedLater (1 + looks)) _)

end Document

end PageSketch
