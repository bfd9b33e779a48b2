import PageSketch.Proofs.PageAnalysis
import PageSketch.Proofs.PageSelection
import PageSketch.Proofs.ScheduledWork

/-! # Analysis page by page

The analysis that goes on page by page tells the outcomes of the pages up to the first
failure, and nothing after that. The analysis of the whole document collects the same
outcomes. -/

namespace PageSketch

variable {α : Type} [Scalar α] [SpatialIndex α] {sketch : Sketch α} {token : CancelToken}
  {pages : List (Page α)} {outcomes : List (Except Failure (PageReport α))}

/-! ## Outcomes -/

namespace Sketch

/-- The outcomes of pages one after the other, up to the first failure. -/
inductive Yields (sketch : Sketch α) :
    List (Page α) → List (Except Failure (PageReport α)) → Prop
  | none : Yields sketch [] []
  | report {page : Page α} {rest : List (Page α)} {report : PageReport α}
      {outcomes : List (Except Failure (PageReport α))}
      (analyzed : sketch.analyzePage page = .ok report) (later : Yields sketch rest outcomes) :
      Yields sketch (page :: rest) (.ok report :: outcomes)
  | failure {page : Page α} {rest : List (Page α)} {failure : Failure}
      (failed : sketch.analyzePage page = .error failure) :
      Yields sketch (page :: rest) [.error failure]

theorem Yields.mapM (yields : sketch.Yields pages outcomes) :
    pages.mapM sketch.analyzePage = outcomes.mapM id := by
  induction yields with
  | none => rfl
  | report analyzed later induction =>
      rw [List.mapM_cons, List.mapM_cons, induction, analyzed]
      rfl
  | failure failed =>
      rw [List.mapM_cons, List.mapM_cons, failed]
      rfl

theorem yields_of_reports {reports : List (PageReport α)}
    (analyzed : List.Forall₂ (fun page report => sketch.analyzePage page = .ok report)
      pages reports) :
    sketch.Yields pages (reports.map .ok) := by
  induction analyzed with
  | nil => exact .none
  | cons analyzed later induction => exact .report analyzed induction

theorem yields_of_failure (after : List (Page α)) {before : List (Page α)} {page : Page α}
    {failure : Failure} {reports : List (PageReport α)}
    (analyzed : List.Forall₂ (fun page report => sketch.analyzePage page = .ok report)
      before reports)
    (failed : sketch.analyzePage page = .error failure) :
    sketch.Yields (before ++ page :: after) (reports.map .ok ++ [.error failure]) := by
  induction analyzed with
  | nil => exact .failure failed
  | cons analyzed later induction => exact .report analyzed induction

/-- The analysis of the whole document collects the outcomes of all pages. -/
theorem analyzeDocument_of_yields {document : Document α} {contents : Option ByteArray}
    {timeline : Timeline} {schedule : (count : Nat) → Schedule count}
    (numbered : Page.Numbered pages) (holds : document.Holds contents pages)
    (passed : ∀ index, token.check (timeline index) = .ok ())
    (staffed : (schedule pages.length).fault = none ∨ pages.length ≤ 1)
    (looked : ∀ entry ∈ (schedule pages.length).taken, token.check entry.2 = .ok ())
    (yields : sketch.Yields pages outcomes) :
    (sketch.analyzeDocument document contents token timeline .all schedule).1 =
      outcomes.mapM id >>= fun reports => .ok { tags := sketch.tags, pages := reports } := by
  rcases holds.parsePages passed .all with ⟨later, parsed, _⟩
  rw [analyzeDocument, parsed, numbered.select_all, ← yields.mapM,
    ← analyzePages_eq_mapM staffed looked]
  rfl

end Sketch

/-! ## Calls -/

namespace PageReports

variable {reports ended : PageReports} {document later : Document α} {timeline : Timeline}
  {contents : Option ByteArray} {index : Nat}

/-- What each call gives, counted from zero, where the contents of the file and the world may
be others at each of them. -/
def call (reports : PageReports) (sketch : Sketch α) (document : Document α)
    (contents : Nat → Option ByteArray) (timelines : Nat → Timeline) :
    Nat → Option (Except Failure (PageReport α))
  | 0 => (reports.advance sketch document (contents 0) (timelines 0)).1
  | index + 1 =>
      let (_, reports, document) := reports.advance sketch document (contents 0) (timelines 0)
      reports.call sketch document (fun call => contents (call + 1))
        (fun call => timelines (call + 1)) index

theorem advance_of_isDone (done : reports.isDone = true) :
    reports.advance sketch document contents timeline = (none, reports, document) := by
  rw [advance, if_pos done]

theorem call_of_isDone {contents : Nat → Option ByteArray} {timelines : Nat → Timeline}
    (done : reports.isDone = true) :
    reports.call sketch document contents timelines index = none := by
  induction index generalizing contents timelines with
  | zero => rw [call, advance_of_isDone done]
  | succ index induction =>
      rw [call, advance_of_isDone done]
      exact induction

/-- A call after which it is over is the last one that may give something. -/
theorem call_of_over {contents : Nat → Option ByteArray} {timelines : Nat → Timeline}
    {last : Option (Except Failure (PageReport α))}
    (advanced : reports.advance sketch document (contents 0) (timelines 0) = (last, ended, later))
    (done : ended.isDone = true) (further : Nat) :
    reports.call sketch document contents timelines further = last.toList[further]? := by
  cases further with
  | zero =>
      rw [call, advanced]
      cases last <;> rfl
  | succ further =>
      rw [call, advanced]
      simp only [call_of_isDone done]
      cases last <;> rfl

/-- The page with an index is the next one. -/
structure Awaits (reports : PageReports) (token : CancelToken) (index : Nat) : Prop where
  token : reports.token = token
  active : reports.isDone = false
  number : reports.next.val = index + 1

theorem awaits_start (token : CancelToken) : Awaits { token } token 0 := ⟨rfl, rfl, rfl⟩

omit [Scalar α] in
theorem Awaits.succ (awaits : reports.Awaits token index) (numbered : Page.Numbered pages)
    (inside : index < pages.length) :
    Awaits { reports with next := reports.next.advance 1 } token (index + 1) where
  token := awaits.token
  active := awaits.active
  number := by
    have number := awaits.number
    have fits := numbered.fits
    have small : reports.next.val + 1 < UInt64.size := by
      rw [number, show UInt64.size = 2 ^ 64 from rfl]
      omega
    rw [PageNumber.advance, dif_pos small]
    exact congrArg (· + 1) number

/-- The outcome of the first of the pages that are left, or none if none are left. -/
theorem advance_of_awaits (sketch : Sketch α) (awaits : reports.Awaits token index)
    (numbered : Page.Numbered pages) (close : index ≤ pages.length)
    (holds : document.Holds contents pages)
    (passed : ∀ index, token.check (timeline index) = .ok ()) :
    ∃ later, (∀ contents, later.Holds contents pages) ∧
      reports.advance sketch document contents timeline =
        match (pages.drop index).head?.map sketch.analyzePage with
        | none => (none, { reports with isDone := true }, later)
        | some (.ok report) =>
            (some (.ok report), { reports with next := reports.next.advance 1 }, later)
        | some (.error failure) =>
            (some (.error failure), { reports with isDone := true }, later) := by
  rcases numbered.select_single awaits.number close with ⟨range, single, selected⟩
  rcases holds.parsePages passed range with ⟨later, parsed, kept⟩
  refine ⟨later, kept, ?_⟩
  have active : ¬reports.isDone = true := by rw [awaits.active]; exact Bool.false_ne_true
  rw [advance, if_neg active, reportOn, single, List.head?_drop]
  simp only [Except.mapError, awaits.token, parsed, selected]
  cases pages[index]? with
  | none => rfl
  | some page =>
      cases analyzed : sketch.analyzePage page with
      | ok report => simp [analyzed, bind, Except.bind, pure, Except.pure]
      | error failure => simp [analyzed, bind, Except.bind]

/-- The calls tell the outcomes of the pages that are left. -/
theorem call_of_yields {contents : Nat → Option ByteArray} {timelines : Nat → Timeline}
    (numbered : Page.Numbered pages) (yields : sketch.Yields (pages.drop index) outcomes)
    (close : index ≤ pages.length) (awaits : reports.Awaits token index)
    (holds : document.Holds (contents 0) pages)
    (passed : ∀ call index, token.check (timelines call index) = .ok ()) (further : Nat) :
    reports.call sketch document contents timelines further = outcomes[further]? := by
  generalize left : pages.drop index = rest at yields
  -- Each call takes one page off those that are left, and the document stays as it is known.
  induction yields generalizing index reports document contents timelines further with
  | none =>
      rcases advance_of_awaits sketch awaits numbered close holds (passed 0) with
        ⟨later, kept, advanced⟩
      rw [left] at advanced
      exact call_of_over advanced rfl further
  | @report page rest report outcomes analyzed others induction =>
      rcases advance_of_awaits sketch awaits numbered close holds (passed 0) with
        ⟨later, kept, advanced⟩
      rw [left, List.head?_cons, Option.map_some, analyzed] at advanced
      have inside : index < pages.length := by
        by_contra outside
        rw [List.drop_of_length_le (Nat.le_of_not_lt outside)] at left
        cases left
      have remaining : pages.drop (index + 1) = rest := by
        rw [← List.drop_drop, left, List.drop_one, List.tail_cons]
      cases further with
      | zero => rw [call, advanced]; rfl
      | succ further =>
          rw [call, advanced, List.getElem?_cons_succ]
          exact induction inside (awaits.succ numbered inside) (kept _)
            (fun call => passed (call + 1)) further remaining
  | failure failed =>
      rcases advance_of_awaits sketch awaits numbered close holds (passed 0) with
        ⟨later, kept, advanced⟩
      rw [left, List.head?_cons, Option.map_some, failed] at advanced
      exact call_of_over advanced rfl further

theorem call_of_yields_start {contents : Nat → Option ByteArray} {timelines : Nat → Timeline}
    (numbered : Page.Numbered pages) (yields : sketch.Yields pages outcomes)
    (holds : document.Holds (contents 0) pages)
    (passed : ∀ call index, token.check (timelines call index) = .ok ()) (index : Nat) :
    call { token } sketch document contents timelines index = outcomes[index]? := by
  have all : sketch.Yields (pages.drop 0) outcomes := yields
  exact call_of_yields numbered all (Nat.zero_le _) (awaits_start token) holds passed index

/-- Going on page by page agrees with analyzing the whole document. If all pages can be
analyzed, the calls give the reports that the analysis of the document collects, and then
nothing any more. Otherwise they give the reports on the pages before the first one that
cannot be, then the failure that the analysis of the document gives, and then nothing. -/
theorem call_eq_analyzeDocument (sketch : Sketch α) (document : Document α)
    (contents : Option ByteArray) (contentsAt : Nat → Option ByteArray) (token : CancelToken)
    (timeline : Timeline) (timelines : Nat → Timeline)
    (schedule : (count : Nat) → Schedule count) (pages : List (Page α))
    (numbered : Page.Numbered pages)
    (holds : document.Holds contents pages) (holdsAlso : document.Holds (contentsAt 0) pages)
    (passed : ∀ index, token.check (timeline index) = .ok ())
    (passedAlso : ∀ call index, token.check (timelines call index) = .ok ())
    (staffed : (schedule pages.length).fault = none ∨ pages.length ≤ 1)
    (looked : ∀ entry ∈ (schedule pages.length).taken, token.check entry.2 = .ok ()) :
    (∀ reports : List (PageReport α),
      List.Forall₂ (fun page report => sketch.analyzePage page = .ok report) pages reports →
      (sketch.analyzeDocument document contents token timeline .all schedule).1 =
          .ok { tags := sketch.tags, pages := reports } ∧
        ∀ index, call { token } sketch document contentsAt timelines index =
          (reports.map .ok)[index]?) ∧
    ∀ before page after (reports : List (PageReport α)) failure, pages = before ++ page :: after →
      List.Forall₂ (fun page report => sketch.analyzePage page = .ok report) before reports →
      sketch.analyzePage page = .error failure →
      (sketch.analyzeDocument document contents token timeline .all schedule).1 =
          .error failure ∧
        ∀ index, call { token } sketch document contentsAt timelines index =
          (reports.map .ok ++ [.error failure])[index]? := by
  constructor
  · intro reports analyzed
    have yields := Sketch.yields_of_reports analyzed
    refine ⟨?_, call_of_yields_start numbered yields holdsAlso passedAlso⟩
    rw [Sketch.analyzeDocument_of_yields numbered holds passed staffed looked yields,
      Steps.mapM_map_ok]
    rfl
  · intro before page after reports failure split analyzed failed
    subst split
    have yields := Sketch.yields_of_failure after analyzed failed
    refine ⟨?_, call_of_yields_start numbered yields holdsAlso passedAlso⟩
    rw [Sketch.analyzeDocument_of_yields numbered holds passed staffed looked yields,
      List.mapM_append, Steps.mapM_map_ok]
    rfl

end PageReports

namespace Invoice

def secondPage : Page Float := { page 20 with number := (2 : UInt64).toFin }

theorem sortByNumber_pages :
    Page.sortByNumber [secondPage, page 30] = [page 30, secondPage] := by
  simp [Page.sortByNumber, List.mergeSort, List.MergeSort.Internal.splitInTwo, secondPage, page]

theorem numbered_pages : Page.Numbered [page 30, secondPage] := by
  rw [← sortByNumber_pages]
  exact Page.numbered_sortByNumber (by decide) (by decide)

end Invoice

namespace PageReports

/-- Two pages, of which the second is given first. -/
theorem call_eq_analyzeDocument_invoice :
    ∃ reports : List (PageReport Float), reports.length = 2 ∧
      (Invoice.sketch.analyzeDocument (.ofPages [Invoice.secondPage, Invoice.page 30]) none
          { flag := 0 } (fun _ => {}) .all (fun count => .sequential count fun _ => {})).1 =
        .ok { tags := [], pages := reports } ∧
      ∀ index, call { token := { flag := 0 } } Invoice.sketch
          (.ofPages [Invoice.secondPage, Invoice.page 30]) (fun _ => none) (fun _ _ => {}) index =
        (reports.map .ok)[index]? := by
  have all : ([Invoice.page 30, Invoice.secondPage].mapM Invoice.sketch.analyzePage).toOption.map
      List.length = some 2 := by
    decide +kernel
  cases analyzed : [Invoice.page 30, Invoice.secondPage].mapM Invoice.sketch.analyzePage with
  | error failure =>
      rw [analyzed] at all
      cases all
  | ok reports =>
      rw [analyzed] at all
      rw [Document.ofPages, Invoice.sortByNumber_pages]
      have calm : ∀ entry ∈ (Schedule.sequential 2 fun _ => {}).taken,
          CancelToken.check { flag := 0 } entry.2 = .ok () := by
        intro entry member
        rcases List.mem_map.mp member with ⟨index, _, rfl⟩
        rfl
      have agree := call_eq_analyzeDocument Invoice.sketch
        (.memory [Invoice.page 30, Invoice.secondPage] none none) none (fun _ => none)
        { flag := 0 } (fun _ => {}) (fun _ _ => {}) (fun count => .sequential count fun _ => {})
        [Invoice.page 30, Invoice.secondPage] Invoice.numbered_pages .memory .memory
        (fun _ => rfl) (fun _ _ => rfl) (.inl rfl) calm
      exact ⟨reports, Option.some.inj all, agree.1 reports (Steps.mapM_eq_ok.mp analyzed)⟩

end PageReports

end PageSketch
