import PageSketch.Area.Feature
import PageSketch.Spec.Length

/-! # Search areas in configurations

An area is a rectangle given by any of its edges, corners and dimensions. Edges
and corners are placed absolutely, or relative to a feature of another node. -/

namespace PageSketch

namespace Feature

variable {α : Type}

def encode (feature : Feature) : Json α := .text feature.name

/-- A feature is given by its name, or by an object with its name and null. -/
def decode? : Json α → Option Feature
  | .text name => ofName? name
  | .object [(name, .null)] => ofName? name
  | _ => none

end Feature

structure RelativeSpec (Offset : Type) where
  node : String := ""
  feature : Feature := .unspecified
  offset : Option Offset := none
deriving DecidableEq

namespace RelativeSpec

variable {α Offset : Type}

def fieldNames : List String := ["node", "feature", "offset"]

def encode (encodeOffset : Offset → Json α) (spec : RelativeSpec Offset) : Json α :=
  Json.ofFields [("node", some (.text spec.node)), ("feature", some spec.feature.encode),
    ("offset", spec.offset.map encodeOffset)]

def decode? (decodeOffset : Json α → Option Offset) (value : Json α) :
    Option (RelativeSpec Offset) := do
  match ← Json.slots? fieldNames value with
  | [node, feature, offset] =>
      return { node := ← Json.defaulted Json.text? "" node
               feature := ← Json.defaulted Feature.decode? .unspecified feature
               offset := ← Json.optional decodeOffset offset }
  | _ => none

end RelativeSpec

/-- A place, absolute or relative. Both or none can be written, though neither
makes sense. -/
structure PlaceSpec (Absolute Offset : Type) where
  abs : Option Absolute := none
  rel : Option (RelativeSpec Offset) := none
deriving DecidableEq

namespace PlaceSpec

variable {α Absolute Offset : Type}

def absolute (place : Absolute) : PlaceSpec Absolute Offset := { abs := some place }

def relative (node : String) (feature : Feature) (offset : Option Offset) :
    PlaceSpec Absolute Offset :=
  { rel := some { node, feature, offset } }

def fieldNames : List String := ["abs", "rel"]

def encode (encodeAbsolute : Absolute → Json α) (encodeOffset : Offset → Json α)
    (spec : PlaceSpec Absolute Offset) : Json α :=
  Json.ofFields [("abs", spec.abs.map encodeAbsolute),
    ("rel", spec.rel.map (RelativeSpec.encode encodeOffset))]

def decode? (decodeAbsolute : Json α → Option Absolute) (decodeOffset : Json α → Option Offset)
    (value : Json α) : Option (PlaceSpec Absolute Offset) := do
  match ← Json.slots? fieldNames value with
  | [abs, rel] =>
      return { abs := ← Json.optional decodeAbsolute abs
               rel := ← Json.optional (RelativeSpec.decode? decodeOffset) rel }
  | _ => none

end PlaceSpec

/-- An edge: its distance from the edge of the page, or its offset from a feature. -/
abbrev EdgeSpec (α : Type) := PlaceSpec (LengthSpec α) (LengthSpec α)

/-- A corner: its position on the page, or its offset from a feature. -/
abbrev CornerSpec (α : Type) := PlaceSpec (PointSpec α) (SizeSpec α)

namespace EdgeSpec

variable {α : Type} [Scalar α]

def encode (spec : EdgeSpec α) : Json α := PlaceSpec.encode LengthSpec.encode LengthSpec.encode spec

def decode? (value : Json α) : Option (EdgeSpec α) :=
  PlaceSpec.decode? LengthSpec.decode? LengthSpec.decode? value

end EdgeSpec

namespace CornerSpec

variable {α : Type} [Scalar α]

def encode (spec : CornerSpec α) : Json α := PlaceSpec.encode PointSpec.encode SizeSpec.encode spec

def decode? (value : Json α) : Option (CornerSpec α) :=
  PlaceSpec.decode? PointSpec.decode? SizeSpec.decode? value

end CornerSpec

structure AreaSpec (α : Type) where
  top : Option (EdgeSpec α) := none
  right : Option (EdgeSpec α) := none
  bottom : Option (EdgeSpec α) := none
  left : Option (EdgeSpec α) := none
  topLeft : Option (CornerSpec α) := none
  topRight : Option (CornerSpec α) := none
  bottomLeft : Option (CornerSpec α) := none
  bottomRight : Option (CornerSpec α) := none
  width : Option (LengthSpec α) := none
  height : Option (LengthSpec α) := none
deriving DecidableEq

namespace AreaSpec

variable {α : Type} [Scalar α]

def absolute (left top right bottom : LengthSpec α) : AreaSpec α where
  top := some (.absolute top)
  right := some (.absolute right)
  bottom := some (.absolute bottom)
  left := some (.absolute left)

def fieldNames : List String :=
  ["top", "right", "bottom", "left", "top_left", "top_right", "bottom_left", "bottom_right",
    "width", "height"]

def encode (spec : AreaSpec α) : Json α :=
  Json.ofFields
    [("top", spec.top.map EdgeSpec.encode),
      ("right", spec.right.map EdgeSpec.encode),
      ("bottom", spec.bottom.map EdgeSpec.encode),
      ("left", spec.left.map EdgeSpec.encode),
      ("top_left", spec.topLeft.map CornerSpec.encode),
      ("top_right", spec.topRight.map CornerSpec.encode),
      ("bottom_left", spec.bottomLeft.map CornerSpec.encode),
      ("bottom_right", spec.bottomRight.map CornerSpec.encode),
      ("width", spec.width.map LengthSpec.encode),
      ("height", spec.height.map LengthSpec.encode)]

def decode? (value : Json α) : Option (AreaSpec α) := do
  match ← Json.slots? fieldNames value with
  | [top, right, bottom, left, topLeft, topRight, bottomLeft, bottomRight, width, height] =>
      return { top := ← Json.optional EdgeSpec.decode? top
               right := ← Json.optional EdgeSpec.decode? right
               bottom := ← Json.optional EdgeSpec.decode? bottom
               left := ← Json.optional EdgeSpec.decode? left
               topLeft := ← Json.optional CornerSpec.decode? topLeft
               topRight := ← Json.optional CornerSpec.decode? topRight
               bottomLeft := ← Json.optional CornerSpec.decode? bottomLeft
               bottomRight := ← Json.optional CornerSpec.decode? bottomRight
               width := ← Json.optional LengthSpec.decode? width
               height := ← Json.optional LengthSpec.decode? height }
  | _ => none

end AreaSpec

end PageSketch
