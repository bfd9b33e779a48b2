import PageSketch.Sketch.Report

/-! # Output of reports

Reports are written with all lengths in one unit. What belongs to a place is left
out for nodes that were not found, so that such a node can be told from one that
matched an empty text. -/

namespace PageSketch

structure SizeOutput (α : Type) where
  width : α
  height : α
deriving DecidableEq, BEq

namespace SizeOutput

variable {α : Type} [Scalar α]

def ofSize (format : LengthFormat α) (size : Size α) : SizeOutput α :=
  ⟨format.value size.width, format.value size.height⟩

def fieldNames : List String := ["width", "height"]

def encode (output : SizeOutput α) : Json α :=
  Json.ofFields [("width", some (Json.ofReal output.width)),
    ("height", some (Json.ofReal output.height))]

def decode? (value : Json α) : Option (SizeOutput α) := do
  match ← Json.slots? fieldNames value with
  | [width, height] =>
      return { width := ← Json.required Json.real? width
               height := ← Json.required Json.real? height }
  | _ => none

end SizeOutput

structure RectOutput (α : Type) where
  left : α
  top : α
  right : α
  bottom : α
deriving DecidableEq, BEq

namespace RectOutput

variable {α : Type} [Scalar α]

def ofRect (format : LengthFormat α) (rect : Rect α) : RectOutput α :=
  ⟨format.value rect.left, format.value rect.top, format.value rect.right,
    format.value rect.bottom⟩

def fieldNames : List String := ["left", "top", "right", "bottom"]

def encode (output : RectOutput α) : Json α :=
  Json.ofFields [("left", some (Json.ofReal output.left)),
    ("top", some (Json.ofReal output.top)), ("right", some (Json.ofReal output.right)),
    ("bottom", some (Json.ofReal output.bottom))]

def decode? (value : Json α) : Option (RectOutput α) := do
  match ← Json.slots? fieldNames value with
  | [left, top, right, bottom] =>
      return { left := ← Json.required Json.real? left
               top := ← Json.required Json.real? top
               right := ← Json.required Json.real? right
               bottom := ← Json.required Json.real? bottom }
  | _ => none

end RectOutput

structure GroupOutput where
  /-- Empty unless the group has a name. -/
  name : String
  /-- The position of the group in bytes, or -1 if it was not captured. -/
  start : Int
  stop : Int
  text : String
deriving DecidableEq

namespace GroupOutput

variable {α : Type}

def ofGroup (group : MatchGroup) : GroupOutput := ⟨group.name, group.start, group.stop, group.text⟩

def fieldNames : List String := ["name", "start", "end", "text"]

def encode (output : GroupOutput) : Json α :=
  Json.ofFields
    [("name", if output.name.isEmpty then none else some (.text output.name)),
      ("start", some (.integer output.start)), ("end", some (.integer output.stop)),
      ("text", some (.text output.text))]

def decode? (value : Json α) : Option GroupOutput := do
  match ← Json.slots? fieldNames value with
  | [name, start, stop, captured] =>
      return { name := ← Json.defaulted Json.text? "" name
               start := ← Json.required Json.integer? start
               stop := ← Json.required Json.integer? stop
               text := ← Json.required Json.text? captured }
  | _ => none

end GroupOutput

structure NodeOutput (α : Type) where
  name : String
  isValid : Bool
  tags : List String
  areas : List (RectOutput α)
  bounds : Option (RectOutput α)
  text : Option String
  groups : List GroupOutput
deriving DecidableEq, BEq

namespace NodeOutput

variable {α : Type} [Scalar α]

def ofResult (format : LengthFormat α) (result : NodeResult α) : NodeOutput α where
  name := result.name
  isValid := result.isValid
  tags := result.tags
  areas := result.areas.map (RectOutput.ofRect format)
  bounds := result.bounds?.map (RectOutput.ofRect format)
  text := result.text?
  groups := (result.match?.elim [] PatternMatch.groups).map GroupOutput.ofGroup

def fieldNames : List String :=
  ["name", "valid", "tags", "search_areas", "bounds", "text", "groups"]

def encode (output : NodeOutput α) : Json α :=
  Json.ofFields [("name", some (.text output.name)), ("valid", some (.bool output.isValid)),
    ("tags", Json.nonempty? .text output.tags),
    ("search_areas", some (Json.ofList RectOutput.encode output.areas)),
    ("bounds", output.bounds.map RectOutput.encode), ("text", output.text.map .text),
    ("groups", Json.nonempty? GroupOutput.encode output.groups)]

def decode? (value : Json α) : Option (NodeOutput α) := do
  match ← Json.slots? fieldNames value with
  | [name, valid, tags, areas, bounds, found, groups] =>
      return { name := ← Json.required Json.text? name
               isValid := ← Json.required Json.bool? valid
               tags := ← Json.defaulted (Json.list? Json.text?) [] tags
               areas := ← Json.defaulted (Json.list? RectOutput.decode?) [] areas
               bounds := ← Json.optional RectOutput.decode? bounds
               text := ← Json.optional Json.text? found
               groups := ← Json.defaulted (Json.list? GroupOutput.decode?) [] groups }
  | _ => none

end NodeOutput

structure PageOutput (α : Type) where
  number : Nat
  size : SizeOutput α
  nodes : List (NodeOutput α)
deriving DecidableEq, BEq

namespace PageOutput

variable {α : Type} [Scalar α]

def ofReport (format : LengthFormat α) (report : PageReport α) : PageOutput α where
  number := report.number
  size := SizeOutput.ofSize format report.size
  nodes := report.results.map (NodeOutput.ofResult format)

def fieldNames : List String := ["number", "size", "nodes"]

def encode (output : PageOutput α) : Json α :=
  Json.ofFields [("number", some (.integer output.number)), ("size", some output.size.encode),
    ("nodes", some (Json.ofList NodeOutput.encode output.nodes))]

def decode? (value : Json α) : Option (PageOutput α) := do
  match ← Json.slots? fieldNames value with
  | [number, size, nodes] =>
      return { number := ← Json.required Json.natural? number
               size := ← Json.required SizeOutput.decode? size
               nodes := ← Json.required (Json.list? NodeOutput.decode?) nodes }
  | _ => none

end PageOutput

structure DocumentOutput (α : Type) where
  /-- The unit of all lengths. -/
  unit : String
  tags : List String
  pages : List (PageOutput α)
deriving DecidableEq, BEq

namespace DocumentOutput

variable {α : Type} [Scalar α]

def ofReport (format : LengthFormat α) (report : DocumentReport α) : DocumentOutput α where
  unit := format.unit.name
  tags := report.tags
  pages := report.pages.map (PageOutput.ofReport format)

def fieldNames : List String := ["unit", "tags", "pages"]

def encode (output : DocumentOutput α) : Json α :=
  Json.ofFields [("unit", some (.text output.unit)), ("tags", Json.nonempty? .text output.tags),
    ("pages", some (Json.ofList PageOutput.encode output.pages))]

def decode? (value : Json α) : Option (DocumentOutput α) := do
  match ← Json.slots? fieldNames value with
  | [unit, tags, pages] =>
      return { unit := ← Json.required Json.text? unit
               tags := ← Json.defaulted (Json.list? Json.text?) [] tags
               pages := ← Json.required (Json.list? PageOutput.decode?) pages }
  | _ => none

end DocumentOutput

end PageSketch
