import PageSketch.Geometry.Rect
import PageSketch.Json.Record
import PageSketch.PageRange

/-! # Pages in content files

Coordinates are in points. A box is an array of its left, top, right and bottom
edge. Lines are given by their glyphs, or by their text and a box. -/

namespace PageSketch

namespace Rect

variable {α : Type} [Scalar α]

def encode (rect : Rect α) : Json α :=
  Json.ofList Json.ofReal
    [rect.left.points, rect.top.points, rect.right.points, rect.bottom.points]

def decode? (value : Json α) : Option (Rect α) := do
  match ← Json.list? Json.real? value with
  | [left, top, right, bottom] => return ⟨⟨left⟩, ⟨top⟩, ⟨right⟩, ⟨bottom⟩⟩
  | _ => none

end Rect

structure GlyphSpec (α : Type) where
  character : Char
  box : Rect α
deriving DecidableEq

namespace GlyphSpec

variable {α : Type} [Scalar α]

def fieldNames : List String := ["char", "bbox"]

def encode (spec : GlyphSpec α) : Json α :=
  Json.ofFields [("char", some (.text spec.character.toString)), ("bbox", some spec.box.encode)]

def decode? (value : Json α) : Option (GlyphSpec α) := do
  match ← Json.slots? fieldNames value with
  | [character, box] =>
      return { character := ← Json.required Json.char? character
               box := ← Json.required Rect.decode? box }
  | _ => none

end GlyphSpec

structure LineSpec (α : Type) where
  box : Option (Rect α) := none
  text : Option String := none
  glyphs : List (GlyphSpec α) := []
deriving DecidableEq

namespace LineSpec

variable {α : Type} [Scalar α]

def fieldNames : List String := ["bbox", "text", "chars"]

def encode (spec : LineSpec α) : Json α :=
  Json.ofFields [("bbox", spec.box.map Rect.encode), ("text", spec.text.map .text),
    ("chars", Json.nonempty? GlyphSpec.encode spec.glyphs)]

def decode? (value : Json α) : Option (LineSpec α) := do
  match ← Json.slots? fieldNames value with
  | [box, written, glyphs] =>
      return { box := ← Json.optional Rect.decode? box
               text := ← Json.optional Json.text? written
               glyphs := ← Json.defaulted (Json.list? GlyphSpec.decode?) [] glyphs }
  | _ => none

end LineSpec

structure BlockSpec (α : Type) where
  box : Option (Rect α) := none
  lines : List (LineSpec α) := []
deriving DecidableEq

namespace BlockSpec

variable {α : Type} [Scalar α]

def fieldNames : List String := ["bbox", "lines"]

def encode (spec : BlockSpec α) : Json α :=
  Json.ofFields [("bbox", spec.box.map Rect.encode),
    ("lines", some (Json.ofList LineSpec.encode spec.lines))]

def decode? (value : Json α) : Option (BlockSpec α) := do
  match ← Json.slots? fieldNames value with
  | [box, lines] =>
      return { box := ← Json.optional Rect.decode? box
               lines := ← Json.defaulted (Json.list? LineSpec.decode?) [] lines }
  | _ => none

end BlockSpec

structure PageSpec (α : Type) where
  number : PageNumber
  width : α
  height : α
  blocks : List (BlockSpec α) := []
deriving DecidableEq

namespace PageSpec

variable {α : Type} [Scalar α]

def fieldNames : List String := ["number", "width", "height", "blocks"]

def encode (spec : PageSpec α) : Json α :=
  Json.ofFields [("number", some (.integer spec.number.val)),
    ("width", some (Json.ofReal spec.width)), ("height", some (Json.ofReal spec.height)),
    ("blocks", some (Json.ofList BlockSpec.encode spec.blocks))]

/-- A whole number that can number a page. -/
def number? (value : Json α) : Option PageNumber := do
  let number ← Json.natural? value
  if small : number < UInt64.size then some ⟨number, small⟩ else none

def decode? (value : Json α) : Option (PageSpec α) := do
  match ← Json.slots? fieldNames value with
  | [number, width, height, blocks] =>
      return { number := ← Json.required number? number
               width := ← Json.required Json.real? width
               height := ← Json.required Json.real? height
               blocks := ← Json.defaulted (Json.list? BlockSpec.decode?) [] blocks }
  | _ => none

end PageSpec

structure ContentSpec (α : Type) where
  pages : List (PageSpec α) := []
deriving DecidableEq

namespace ContentSpec

variable {α : Type} [Scalar α]

def fieldNames : List String := ["pages"]

def encode (spec : ContentSpec α) : Json α :=
  Json.ofFields [("pages", some (Json.ofList PageSpec.encode spec.pages))]

def decode? (value : Json α) : Option (ContentSpec α) := do
  match ← Json.slots? fieldNames value with
  | [pages] => return { pages := ← Json.defaulted (Json.list? PageSpec.decode?) [] pages }
  | _ => none

end ContentSpec

end PageSketch
