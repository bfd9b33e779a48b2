import PageSketch.CommandLine.Outcome
import PageSketch.Sketch.Output

/-! # Listing elements

The command lists the blocks and lines of pages in reading order with their bounds,
which helps to find search areas. -/

namespace PageSketch.CommandLine

inductive ElementFilter where
  | block
  | line
  | all
deriving DecidableEq, Repr

namespace ElementFilter

def accepts (filter : ElementFilter) (kind : ElementKind) : Bool :=
  match filter with
  | .block => kind = .block
  | .line => kind = .line
  | .all => true

def ofName? (name : String) : Option ElementFilter :=
  match name with
  | "block" => some .block
  | "line" => some .line
  | "all" => some .all
  | _ => none

end ElementFilter

structure DumpCommand where
  content : String
  pages : PageRange
  unit : LengthUnit
  filter : ElementFilter

namespace DumpCommand

def rules : ArgumentRules where
  options :=
    [{ name := "pages", accepts := fun text => (readRange? text).isSome },
      { name := "unit", letter := some 'u'
        accepts := fun text => (LengthUnit.ofText? text).isSome },
      { name := "kind", letter := some 'k'
        accepts := fun text => (ElementFilter.ofName? text).isSome },
      { name := "debug", letter := some 'd', takesValue := false }] ++ questions
  positionals := [fun text => (readPath? text).isSome]

def ofArguments? (given : Arguments) : Option DumpCommand := do
  match given.positionals with
  | [content] =>
      return {
        content := ← readPath? content
        pages := ← given.value? "pages" readRange? .all
        unit := ← given.value? "unit" LengthUnit.ofText? .mm
        filter := ← given.value? "kind" ElementFilter.ofName? .all }
  | _ => none

variable {α : Type} [Scalar α]

def elementOutput (format : LengthFormat α) (element : Element α) : Json α :=
  .object [("kind", .text element.kind.name),
    ("bounds", (RectOutput.ofRect format element.bounds).encode), ("text", .text element.text)]

def pageOutput (command : DumpCommand) (page : Page α) : Json α :=
  let listed := page.elementsInReadingOrder.filter fun element =>
    command.filter.accepts element.kind
  .object [("number", .integer page.number.val),
    ("elements", Json.ofList (elementOutput { unit := command.unit }) listed)]

def run {m : Type → Type} [Monad m] (command : DumpCommand) (world : World m) :
    ExceptT Failure m (Outcome α) := do
  let document : Document α := .openFile command.content
  let contents ← world.contents command.content
  let (pages, _) ← document.parsePagesWith world.look contents { flag := 0 } command.pages
  let pages ← Failure.atPlace ("reading " ++ command.content) pages
  return .printed (.object [("unit", .text command.unit.name),
    ("pages", Json.ofList command.pageOutput pages)])

end DumpCommand

end PageSketch.CommandLine
