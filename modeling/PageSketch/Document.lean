import PageSketch.Cancellation
import PageSketch.Content.Loading
import PageSketch.Json.Contents

/-! # Documents

A document gives the pages of a range. Its pages are held in memory, or they come
from a content file. A content file is read when it is first needed, and not again
once that has succeeded.

A call looks at the world and checks for cancellation several times: `validateWith` and
`parsePagesWith` take how to look, `validate` and `parsePages` a timeline. -/

namespace PageSketch

namespace Page

variable {α : Type}

/-- The last of the pages with the largest number. -/
def last? (pages : List (Page α)) : Option (Page α) :=
  pages.foldl
    (fun best? page =>
      match best? with
      | some best => if page.number < best.number then some best else some page
      | none => some page)
    none

def select (range : PageRange) (pages : List (Page α)) : List (Page α) :=
  if range.isLastOnly then (last? pages).toList
  else pages.filter fun page => range.contains page.number

end Page

/-- A content file, of which the pages are kept once they have been read. -/
structure FileSource (α : Type) where
  path : String
  loaded : Option (List (Page α)) := none

namespace FileSource

variable {α : Type} [Scalar α]

/-- The pages that the contents of a file mean; none if it cannot be read. -/
def parse (contents : Option ByteArray) : Except Failure (List (Page α)) := do
  (← Json.ofContents ContentSpec.decode? contents).load

/-- All pages. The contents are those that the file has now. -/
def load (source : FileSource α) (contents : Option ByteArray) :
    Except Failure (List (Page α)) × FileSource α :=
  match source.loaded with
  | some pages => (.ok pages, source)
  | none =>
      match Failure.atPlace source.path (parse contents) with
      | .ok pages => (.ok pages, { source with loaded := some pages })
      | .error failure => (.error failure, source)

def validate (source : FileSource α) (contents : Option ByteArray) (token : CancelToken)
    (signals : Signals) : Except Failure Unit × FileSource α :=
  match token.check signals with
  | .error failure => (.error failure, source)
  | .ok () =>
      let (pages, source) := source.load contents
      (pages.map fun _ => (), source)

def parsePages (source : FileSource α) (contents : Option ByteArray) (token : CancelToken)
    (signals : Signals) (range : PageRange) : Except Failure (List (Page α)) × FileSource α :=
  match token.check signals with
  | .error failure => (.error failure, source)
  | .ok () =>
      let (pages, source) := source.load contents
      (pages.map (Page.select range), source)

end FileSource

inductive Document (α : Type) where
  /-- Pages in memory, perhaps with a fault that is told in place of the pages or
  when the document is validated. -/
  | memory (pages : List (Page α)) (validationFault parsingFault : Option String)
  | file (source : FileSource α)

namespace Document

variable {α : Type} [Scalar α]

def ofPages (pages : List (Page α)) : Document α := .memory (Page.sortByNumber pages) none none

def openFile (path : String) : Document α := .file { path }

section

variable {m : Type → Type} [Monad m]

def validateWith (look : m Signals) (document : Document α) (contents : Option ByteArray)
    (token : CancelToken) : m (Except Failure Unit × Document α) := do
  match token.check (← look) with
  | .error failure => return (.error failure, document)
  | .ok () =>
      match document with
      | .memory _ (some fault) _ => return (.error (.cause (.document fault)), document)
      | .memory _ none _ => return (.ok (), document)
      | .file source =>
          let (result, source) := source.validate contents token (← look)
          return (result, .file source)

def sourcePagesWith (look : m Signals) (document : Document α) (contents : Option ByteArray)
    (token : CancelToken) (range : PageRange) :
    m (Except Failure (List (Page α)) × Document α) := do
  match document with
  | .memory _ _ (some fault) => return (.error (.cause (.document fault)), document)
  | .memory pages _ none => return (.ok (Page.select range pages), document)
  | .file source =>
      let (pages, source) := source.parsePages contents token (← look) range
      return (pages, .file source)

/-- The page, unless the work has been stopped. -/
def checkPage (token : CancelToken) (signals : Signals) (page : Page α) :
    Except Failure (Page α) := do
  Failure.atPlace ("page " ++ toString page.number.val) (token.check signals)
  return page

/-- The pages of a range. There may be fewer than the range has. -/
def parsePagesWith (look : m Signals) (document : Document α) (contents : Option ByteArray)
    (token : CancelToken) (range : PageRange) :
    m (Except Failure (List (Page α)) × Document α) := do
  match token.check (← look) with
  | .error failure => return (.error failure, document)
  | .ok () =>
      let (pages, document) ← document.sourcePagesWith look contents token range
      match Failure.atPlace ("pages " ++ range.display) pages with
      | .error failure => return (.error failure, document)
      | .ok pages => return (← (Signals.inTurn look (checkPage token) pages).run, document)

end

def validate (document : Document α) (contents : Option ByteArray) (token : CancelToken)
    (timeline : Timeline) : Except Failure Unit × Document α :=
  (timeline.follow (document.validateWith Timeline.look contents token)).1

def parsePages (document : Document α) (contents : Option ByteArray) (token : CancelToken)
    (timeline : Timeline) (range : PageRange) : Except Failure (List (Page α)) × Document α :=
  (timeline.follow (document.parsePagesWith Timeline.look contents token range)).1

end Document

end PageSketch
