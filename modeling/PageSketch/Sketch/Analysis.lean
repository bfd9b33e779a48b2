import PageSketch.Document
import PageSketch.Sketch.Basic
import PageSketch.Sketch.Report
import PageSketch.Sketch.Schedule

/-! # Analysis

On a page, nodes are evaluated one after the other, each with what is known of the
nodes before it. Pages are independent of each other. A document is analyzed as a
whole, or page by page on demand. -/

namespace PageSketch

structure AnalysisOptions where
  workers : Nat
  token : CancelToken
  one_le_workers : 1 ≤ workers

namespace AnalysisOptions

/-- Options with a number of workers, of which there is at least one. -/
def ofWorkers (workers : Nat) (token : CancelToken) : AnalysisOptions :=
  ⟨max workers 1, token, Nat.le_max_right workers 1⟩

/-- How many workers there are for `count` pages, as none of them should be idle. -/
def workersFor (options : AnalysisOptions) (count : Nat) : Nat :=
  max 1 (min options.workers count)

end AnalysisOptions

namespace Sketch

variable {α : Type} [Scalar α] [SpatialIndex α]

def analyzeNode (page : Page α) (report : PageReport α) (node : SketchNode α) :
    Except Failure (PageReport α) := do
  let place := "search for node " ++ Text.quoted node.name ++ " on page "
    ++ toString page.number.val
  return report.insert (← Failure.atPlace place (node.search page report.lookup))

/-- Evaluates all nodes on a page. Nodes that are not found are part of the report. -/
def analyzePage (sketch : Sketch α) (page : Page α) : Except Failure (PageReport α) :=
  sketch.orderedNodes.foldlM (analyzeNode page) (.empty page)

def analyzeUnlessStopped (sketch : Sketch α) (token : CancelToken) (signals : Signals)
    (page : Page α) : Except Failure (PageReport α) := do
  Failure.atPlace ("page " ++ toString page.number.val) (token.check signals)
  sketch.analyzePage page

def analyzePages (sketch : Sketch α) (token : CancelToken) (pages : List (Page α))
    (schedule : Schedule pages.length) : Except Failure (List (PageReport α)) :=
  schedule.collect pages (sketch.analyzeUnlessStopped token)

/-- Analyzes the pages of a range of a document one after the other, with a look at the
world before each check. -/
def analyzeDocumentWith {m : Type → Type} [Monad m] (look : m Signals) (sketch : Sketch α)
    (document : Document α) (contents : Option ByteArray) (token : CancelToken)
    (range : PageRange) : m (Except Failure (DocumentReport α) × Document α) := do
  let (pages, document) ← document.parsePagesWith look contents token range
  match pages with
  | .error failure => return (.error failure, document)
  | .ok pages =>
      let reports ← (Signals.inTurn look (sketch.analyzeUnlessStopped token) pages).run
      return (reports.map fun reports => { tags := sketch.tags, pages := reports }, document)

/-- Analyzes the pages of a range of a document. The schedule may depend on how many
there are. -/
def analyzeDocument (sketch : Sketch α) (document : Document α) (contents : Option ByteArray)
    (token : CancelToken) (timeline : Timeline) (range : PageRange)
    (schedule : (count : Nat) → Schedule count) :
    Except Failure (DocumentReport α) × Document α :=
  let (pages, document) := document.parsePages contents token timeline range
  let report := do
    let pages ← pages
    let reports ← sketch.analyzePages token pages (schedule pages.length)
    return { tags := sketch.tags, pages := reports }
  (report, document)

end Sketch

/-! ## Page by page -/

/-- An analysis that goes on page by page, from page one until there is none left or
one fails. -/
structure PageReports where
  token : CancelToken
  next : PageNumber := 1
  isDone : Bool := false

namespace PageReports

variable {α : Type} [Scalar α] [SpatialIndex α]

def reportOn (sketch : Sketch α) (document : Document α) (contents : Option ByteArray)
    (token : CancelToken) (timeline : Timeline) (number : PageNumber) :
    Except Failure (Option (PageReport α)) × Document α :=
  match (PageRange.single number).mapError RangeProblem.toFailure with
  | .error failure => (.error failure, document)
  | .ok range =>
      let (pages, document) := document.parsePages contents token timeline range
      let report := do
        match ← pages with
        | [] => return none
        | page :: _ => return some (← sketch.analyzePage page)
      (report, document)

def advance (reports : PageReports) (sketch : Sketch α) (document : Document α)
    (contents : Option ByteArray) (timeline : Timeline) :
    Option (Except Failure (PageReport α)) × PageReports × Document α :=
  if reports.isDone then
    (none, reports, document)
  else
    match reportOn sketch document contents reports.token timeline reports.next with
    | (.ok (some report), document) =>
        (some (.ok report), { reports with next := reports.next.advance 1 }, document)
    | (.ok none, document) => (none, { reports with isDone := true }, document)
    | (.error failure, document) =>
        (some (.error failure), { reports with isDone := true }, document)

end PageReports

end PageSketch
