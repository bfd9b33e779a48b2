import Mathlib.Data.List.FinRange
import Mathlib.Data.List.Induction
import PageSketch.Proofs.Outcomes
import PageSketch.Proofs.Timelines
import PageSketch.Sketch.Analysis

/-! # Scheduled work

What comes of work that follows a schedule. Whatever the order in which the outcomes come
in, each ends up in the place of its item, so that the order of the items decides. -/

namespace PageSketch

namespace Schedule

variable {count : Nat} {β γ : Type} {first second : Fin count → γ}

/-! ## Moments -/

/-- The moment of an item, given those of the items that have been taken up so far. -/
def momentIn (taken : List (Fin count × Signals)) (item : Fin count) : Signals :=
  (taken.lookup item).getD {}

theorem mem_of_momentIn {taken : List (Fin count × Signals)} {item : Fin count}
    (member : item ∈ taken.map Prod.fst) : (item, momentIn taken item) ∈ taken := by
  rcases List.mem_map.mp member with ⟨entry, listed, rfl⟩
  have present : (taken.lookup entry.1).isSome :=
    List.lookup_isSome_iff.mpr ⟨entry, listed, beq_self_eq_true entry.1⟩
  rcases Option.isSome_iff_exists.mp present with ⟨signals, found⟩
  rcases List.lookup_eq_some_iff.mp found with ⟨before, after, equal, _⟩
  rw [momentIn, found, equal]
  exact List.mem_append_right before List.mem_cons_self

theorem momentIn_append {taken more : List (Fin count × Signals)} {item : Fin count}
    (member : item ∈ taken.map Prod.fst) :
    momentIn (taken ++ more) item = momentIn taken item := by
  rcases List.mem_map.mp member with ⟨entry, listed, rfl⟩
  have present : (taken.lookup entry.1).isSome :=
    List.lookup_isSome_iff.mpr ⟨entry, listed, beq_self_eq_true entry.1⟩
  rw [momentIn, momentIn, List.lookup_append, Option.or_of_isSome present]

theorem momentIn_concat {taken : List (Fin count × Signals)} {item : Fin count}
    {signals : Signals} (fresh : item ∉ taken.map Prod.fst) :
    momentIn (taken ++ [(item, signals)]) item = signals := by
  have absent : taken.lookup item = none := by
    refine List.lookup_eq_none_iff.mpr fun entry listed => bne_iff_ne.mpr fun same => fresh ?_
    exact same ▸ List.mem_map_of_mem listed
  simp [momentIn, List.lookup_append, absent]

theorem mem_taken (schedule : Schedule count) (item : Fin count) :
    (item, schedule.momentOf item) ∈ schedule.taken :=
  mem_of_momentIn (schedule.taken_complete.mem_iff.mpr (List.mem_finRange item))

/-! ## Places -/

/-- The places when the outcomes of some items have come in. -/
def fill (outcome : Fin count → γ) (stored : List (Fin count)) : List (Option γ) :=
  stored.foldl (fun places (item : Fin count) => places.set item (some (outcome item)))
    (List.replicate count none)

theorem fill_concat (outcome : Fin count → γ) (stored : List (Fin count)) (item : Fin count) :
    fill outcome (stored ++ [item]) = (fill outcome stored).set item (some (outcome item)) :=
  List.foldl_concat ..

theorem fill_congr {stored : List (Fin count)} (agree : ∀ item ∈ stored, first item = second item) :
    fill first stored = fill second stored :=
  List.foldl_ext _ _ _ fun places item member => by rw [agree item member]

@[simp] theorem length_fill (outcome : Fin count → γ) (stored : List (Fin count)) :
    (fill outcome stored).length = count := by
  induction stored using List.reverseRecOn with
  | nil => exact List.length_replicate
  | append_singleton stored item induction => rw [fill_concat, List.length_set, induction]

/-- The place of an item is empty until its own outcome comes in. -/
theorem getElem?_fill (outcome : Fin count → γ) (stored : List (Fin count)) (item : Fin count) :
    (fill outcome stored)[item.val]? =
      some (if item ∈ stored then some (outcome item) else none) := by
  induction stored using List.reverseRecOn with
  | nil => simp [fill]
  | append_singleton stored other induction =>
      rw [fill_concat, List.getElem?_set]
      by_cases same : other = item
      · subst same
        simp
      · have apart : other.val ≠ item.val := fun equal => same (Fin.ext equal)
        rw [if_neg apart, induction]
        simp [Ne.symm same]

theorem fill_of_perm {outcome : Fin count → γ} {stored : List (Fin count)}
    (complete : stored.Perm (List.finRange count)) :
    fill outcome stored = (List.finRange count).map fun item => some (outcome item) := by
  apply List.ext_getElem?
  intro index
  by_cases small : index < count
  · rw [getElem?_fill outcome stored ⟨index, small⟩,
      if_pos (complete.mem_iff.mpr (List.mem_finRange _))]
    simp [small]
  · simp [Nat.le_of_not_lt small]

/-! ## Results -/

variable {items : List β} {schedule : Schedule items.length}
  {work : Signals → β → Except Failure γ}

theorem run_eq (items : List β) (schedule : Schedule items.length) (work : Signals → β → γ) :
    schedule.run items work =
      (List.finRange items.length).map fun item =>
        some (work (schedule.momentOf item) (items.get item)) :=
  fill_of_perm schedule.stored_complete

theorem gather_map_some (outcomes : List (Except Failure γ)) :
    gather (outcomes.map some) = outcomes.mapM id := by
  rw [gather, List.filterMap_map, Function.id_comp, List.filterMap_some]

/-- One item or none gives what workers would give, though there need not be any. -/
theorem collect_eq (staffed : schedule.fault = none ∨ items.length ≤ 1) :
    schedule.collect items work = gather (schedule.run items work) := by
  match items, schedule, staffed with
  | [], _, _ => rw [run_eq]; rfl
  | [item], schedule, _ => rw [run_eq]; rfl
  | first :: second :: rest, schedule, .inl staffed => rw [collect, staffed]
  | first :: second :: rest, schedule, .inr few => simp at few

/-- Without workers there are no results for several items. -/
theorem staffed_of_collect {results : List γ}
    (collected : schedule.collect items work = .ok results) :
    schedule.fault = none ∨ items.length ≤ 1 := by
  match items, schedule, collected with
  | [], _, _ => exact .inr (Nat.zero_le 1)
  | [_], _, _ => exact .inr (Nat.le_refl 1)
  | _ :: _ :: _, schedule, collected =>
      rw [collect] at collected
      split at collected
      · cases collected
      · next staffed => exact .inl staffed

theorem collect_eq_mapM (staffed : schedule.fault = none ∨ items.length ≤ 1) :
    schedule.collect items work =
      (List.finRange items.length).mapM fun item =>
        work (schedule.momentOf item) (items.get item) := by
  have places : schedule.run items work =
      ((List.finRange items.length).map fun item =>
        work (schedule.momentOf item) (items.get item)).map some := by
    rw [run_eq, List.map_map]
    rfl
  rw [collect_eq staffed, places, gather_map_some, List.mapM_map]
  rfl

theorem momentOf_sequential (moment : Nat → Signals) (item : Fin count) :
    (sequential count moment).momentOf item = moment item := by
  rcases List.mem_map.mp ((sequential count moment).mem_taken item) with ⟨other, _, equal⟩
  rw [← (Prod.mk.inj equal).2, (Prod.mk.inj equal).1]

theorem zipIdx_eq_finRange (items : List β) :
    items.zipIdx = (List.finRange items.length).map fun item => (items.get item, item.val) := by
  apply List.ext_getElem
  · simp
  · intro index inside _
    simp

theorem collect_sequential (items : List β) (moment : Nat → Signals)
    (work : Signals → β → Except Failure γ) :
    (sequential items.length moment).collect items work =
      items.zipIdx.mapM fun entry => work (moment entry.2) entry.1 := by
  rw [collect_eq_mapM (.inl rfl), zipIdx_eq_finRange, List.mapM_map]
  simp only [momentOf_sequential]
  rfl

/-- In the order of all items, those before one are the smaller ones. -/
theorem mem_before_of_lt {before after : List (Fin count)} {item earlier : Fin count}
    (split : List.finRange count = before ++ item :: after) (less : earlier < item) :
    earlier ∈ before := by
  have member : earlier ∈ before ++ item :: after := split ▸ List.mem_finRange earlier
  have sorted : (before ++ item :: after).Pairwise (· < ·) :=
    split ▸ List.pairwise_lt_finRange count
  rcases List.mem_append.mp member with here | there
  · exact here
  · rcases List.mem_cons.mp there with rfl | later
    · exact absurd less (lt_irrefl earlier)
    · have greater := List.rel_of_pairwise_cons (List.pairwise_append.mp sorted).2.1 later
      exact absurd less (lt_asymm greater)

end Schedule

namespace Sketch

variable {α : Type} [Scalar α] [SpatialIndex α] {sketch : Sketch α} {token : CancelToken}
  {pages : List (Page α)}

/-! ## Pages -/

theorem analyzePages_eq_mapM {schedule : Schedule pages.length}
    (staffed : schedule.fault = none ∨ pages.length ≤ 1)
    (passed : ∀ entry ∈ schedule.taken, token.check entry.2 = .ok ()) :
    sketch.analyzePages token pages schedule = pages.mapM sketch.analyzePage := by
  have each : ∀ item ∈ List.finRange pages.length,
      sketch.analyzeUnlessStopped token (schedule.momentOf item) (pages.get item) =
        sketch.analyzePage (pages.get item) := by
    intro item _
    rw [analyzeUnlessStopped, passed _ (schedule.mem_taken item)]
    rfl
  calc sketch.analyzePages token pages schedule
      = (List.finRange pages.length).mapM (sketch.analyzePage ∘ pages.get) := by
        rw [analyzePages, Schedule.collect_eq_mapM staffed, Steps.mapM_congr each]
        rfl
    _ = ((List.finRange pages.length).map pages.get).mapM sketch.analyzePage :=
        List.mapM_map.symm
    _ = pages.mapM sketch.analyzePage := by
        rw [List.map_get_finRange]

/-- What the analysis of pages gives if each page is taken up at its own moment: the reports
on all pages, or what went wrong with the first page without a report. -/
inductive Settles (sketch : Sketch α) (token : CancelToken) (pages : List (Page α))
    (moment : Fin pages.length → Signals) : Except Failure (List (PageReport α)) → Prop
  | complete {reports : List (PageReport α)}
      (passed : ∀ index, token.check (moment index) = .ok ())
      (analyzed : List.Forall₂ (fun page report => sketch.analyzePage page = .ok report)
        pages reports) :
      Settles sketch token pages moment (.ok reports)
  | stopped {index : Fin pages.length} {failure : Failure}
      (before : ∀ earlier < index, token.check (moment earlier) = .ok () ∧
        ∃ report, sketch.analyzePage (pages.get earlier) = .ok report)
      (stopped : token.check (moment index) = .error failure) :
      Settles sketch token pages moment
        (.error (.within ("page " ++ toString (pages.get index).number.val) failure))
  | failed {index : Fin pages.length} {failure : Failure}
      (before : ∀ earlier < index, token.check (moment earlier) = .ok () ∧
        ∃ report, sketch.analyzePage (pages.get earlier) = .ok report)
      (passed : token.check (moment index) = .ok ())
      (failed : sketch.analyzePage (pages.get index) = .error failure) :
      Settles sketch token pages moment (.error failure)

theorem analyzeUnlessStopped_eq_ok {signals : Signals} {page : Page α} {report : PageReport α} :
    sketch.analyzeUnlessStopped token signals page = .ok report ↔
      token.check signals = .ok () ∧ sketch.analyzePage page = .ok report := by
  rw [analyzeUnlessStopped, Steps.bind_eq_ok]
  constructor
  · intro steps
    rcases steps with ⟨_, passed, analyzed⟩
    exact ⟨Failure.atPlace_eq_ok.mp passed, analyzed⟩
  · intro both
    exact ⟨(), Failure.atPlace_eq_ok.mpr both.1, both.2⟩

theorem analyzeUnlessStopped_eq_error {signals : Signals} {page : Page α} {failure : Failure} :
    sketch.analyzeUnlessStopped token signals page = .error failure ↔
      (∃ inner, token.check signals = .error inner ∧
        failure = .within ("page " ++ toString page.number.val) inner) ∨
      token.check signals = .ok () ∧ sketch.analyzePage page = .error failure := by
  rw [analyzeUnlessStopped, Steps.bind_eq_error, Failure.atPlace_eq_error]
  apply or_congr_right
  constructor
  · intro steps
    rcases steps with ⟨_, passed, failed⟩
    exact ⟨Failure.atPlace_eq_ok.mp passed, failed⟩
  · intro both
    exact ⟨(), Failure.atPlace_eq_ok.mpr both.1, both.2⟩

theorem settles_analyzePages {schedule : Schedule pages.length}
    (staffed : schedule.fault = none ∨ pages.length ≤ 1) :
    sketch.Settles token pages schedule.momentOf (sketch.analyzePages token pages schedule) := by
  rw [analyzePages, Schedule.collect_eq_mapM staffed]
  cases outcome : (List.finRange pages.length).mapM fun item =>
      sketch.analyzeUnlessStopped token (schedule.momentOf item) (pages.get item) with
  | ok reports =>
      have related := Steps.mapM_eq_ok.mp outcome
      refine .complete (fun index => ?_) ?_
      · rcases Steps.step_of_mapM outcome (List.mem_finRange index) with ⟨report, analyzed⟩
        exact (analyzeUnlessStopped_eq_ok.mp analyzed).1
      · have analyzed := related.imp fun _ _ both => (analyzeUnlessStopped_eq_ok.mp both).2
        rw [← List.map_get_finRange pages]
        exact List.forall₂_map_left_iff.mpr analyzed
  | error failure =>
      rcases Steps.mapM_eq_error_first outcome with ⟨before, index, after, split, well, failed⟩
      have earlier : ∀ other < index, token.check (schedule.momentOf other) = .ok () ∧
          ∃ report, sketch.analyzePage (pages.get other) = .ok report := by
        intro other less
        rcases well other (Schedule.mem_before_of_lt split less) with ⟨report, analyzed⟩
        rcases analyzeUnlessStopped_eq_ok.mp analyzed with ⟨passed, analyzed⟩
        exact ⟨passed, report, analyzed⟩
      rcases analyzeUnlessStopped_eq_error.mp failed with
        ⟨inner, stopped, rfl⟩ | ⟨passed, failed⟩
      · exact .stopped earlier stopped
      · exact .failed earlier passed failed

theorem exists_page_of_analyzePages {schedule : Schedule pages.length}
    {reports : List (PageReport α)} {report : PageReport α}
    (analyzed : sketch.analyzePages token pages schedule = .ok reports)
    (member : report ∈ reports) : ∃ page ∈ pages, sketch.analyzePage page = .ok report := by
  have staffed := Schedule.staffed_of_collect analyzed
  rw [analyzePages, Schedule.collect_eq_mapM staffed] at analyzed
  rcases Steps.exists_step_of_mapM analyzed member with ⟨index, _, here⟩
  exact ⟨pages.get index, List.get_mem pages index, (analyzeUnlessStopped_eq_ok.mp here).2⟩

/-! ## Documents -/

/-- A document that is analyzed while the world goes on is analyzed one page after the other,
each at the next moment after those at which the document was read. -/
theorem follow_analyzeDocumentWith (sketch : Sketch α) (document : Document α)
    (contents : Option ByteArray) (token : CancelToken) (range : PageRange)
    (timeline : Timeline) :
    (timeline.follow
        (sketch.analyzeDocumentWith Timeline.look document contents token range)).1 =
      sketch.analyzeDocument document contents token timeline range fun count =>
        .sequential count
          (timeline.follow (document.parsePagesWith Timeline.look contents token range)).2 := by
  rw [analyzeDocumentWith, Timeline.follow_bind, analyzeDocument, Document.parsePages]
  rcases timeline.follow (document.parsePagesWith Timeline.look contents token range) with
    ⟨⟨pages, document⟩, later⟩
  cases pages with
  | error failure => rfl
  | ok pages =>
      have inTurn : (later.follow
          (Signals.inTurn Timeline.look (sketch.analyzeUnlessStopped token) pages).run).1 =
            sketch.analyzePages token pages (.sequential pages.length later) := by
        rw [Timeline.follow_inTurn, analyzePages, Schedule.collect_sequential]
      dsimp only
      rw [Timeline.follow_bind, inTurn]
      change _ = ((do
        let reports ← sketch.analyzePages token pages (.sequential pages.length later)
        return { tags := sketch.tags, pages := reports } : Except Failure (DocumentReport α)),
          document)
      cases sketch.analyzePages token pages (.sequential pages.length later) <;> rfl

end Sketch

end PageSketch
