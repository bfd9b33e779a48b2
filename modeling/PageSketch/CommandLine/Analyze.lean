import PageSketch.CommandLine.Outcome
import PageSketch.Sketch.Analysis
import PageSketch.Sketch.Output

/-! # Analyzing a document

The command locates the nodes of a sketch on the pages of a document and gives the
report. -/

namespace PageSketch.CommandLine

structure AnalyzeCommand (α : Type) where
  content : String
  sketch : String
  pages : PageRange
  /-- How many pages are analyzed at most, zero for all. -/
  maxPages : Nat
  format : LengthFormat α
  workers : Option Nat
  timeout : Option Nat
  /-- The path of the output file, or a dash. -/
  outfile : String

namespace AnalyzeCommand

variable {α : Type} [Scalar α]

def rules (α : Type) [Scalar α] : ArgumentRules where
  options :=
    [{ name := "pages", accepts := fun text => (readRange? text).isSome },
      { name := "max-pages", letter := some 'm', accepts := fun text => (readNumber? text).isSome },
      { name := "unit", letter := some 'u'
        accepts := fun text => (LengthUnit.ofText? text).isSome },
      { name := "nearest"
        accepts := fun text => (readLength? text : Option (Length α)).isSome },
      { name := "threads", letter := some 'j', accepts := fun text => (readNumber? text).isSome },
      { name := "timeout-secs", accepts := fun text => (readNumber? text).isSome },
      { name := "outfile", letter := some 'o' },
      { name := "debug", letter := some 'd', takesValue := false }] ++ questions
  positionals := [fun text => (readPath? text).isSome, fun text => (readPath? text).isSome]

def ofArguments? (given : Arguments) : Option (AnalyzeCommand α) := do
  match given.positionals with
  | [content, sketch] =>
      return {
        content := ← readPath? content
        sketch := ← readPath? sketch
        pages := ← given.value? "pages" readRange? .all
        maxPages := ← given.value? "max-pages" readNumber? 0
        format := {
          unit := ← given.value? "unit" LengthUnit.ofText? .mm
          nearest := ← given.value? "nearest" (fun text => (readLength? text).map some) none }
        workers := ← given.value? "threads" (fun text => (readNumber? text).map some) none
        timeout := ← given.value? "timeout-secs" (fun text => (readNumber? text).map some) none
        outfile := ← given.value? "outfile" some "-" }
  | _ => none

/-- What stops the analysis. There is no such token if the clock does not reach its
deadline. -/
def token? (command : AnalyzeCommand α) (signals : Signals) : Option CancelToken :=
  let token : CancelToken := { flag := 0 }
  match command.timeout with
  | some seconds => token.withTimeout? signals seconds
  | none => some token

def loadSketch (command : AnalyzeCommand α) (contents : Option ByteArray) :
    Except Failure (Sketch α) :=
  Failure.atPlace ("loading sketch " ++ command.sketch) (Sketch.ofFile command.sketch contents)

variable [SpatialIndex α] {m : Type → Type} [Monad m]

/-- The report on the document. Everything is read and checked before pages are
analyzed. -/
def report (command : AnalyzeCommand α) (world : World m) (sketch : Sketch α)
    (token : CancelToken) : ExceptT Failure m (DocumentReport α) := do
  let contents ← world.contents command.content
  let (valid, document) ←
    (Document.openFile command.content).validateWith world.look contents token
  Failure.atPlace "validating document" valid
  let range ← (command.pages.limit command.maxPages).mapError RangeProblem.toFailure
  let (report, _) ← sketch.analyzeDocumentWith world.look document contents token range
  Failure.atPlace ("analyzing " ++ command.content) report

def run (command : AnalyzeCommand α) (world : World m) : ExceptT Failure m (Outcome α) := do
  let sketch ← command.loadSketch (← world.contents command.sketch)
  match command.token? (← world.look) with
  | none => return .beyondClock
  | some token =>
      let report ← command.report world sketch token
      let output := (DocumentOutput.ofReport command.format report).encode
      return if command.outfile = "-" then .printed output else .written command.outfile output

end AnalyzeCommand

end PageSketch.CommandLine
