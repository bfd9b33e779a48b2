import PageSketch.Spec.Area

/-! # Sketches in configurations -/

namespace PageSketch

structure MatcherSpec where
  regex : String := ""
  /-- The bounds of a node are those of the matched characters only. -/
  boundsFromMatch : Bool := false
deriving DecidableEq, Repr

namespace MatcherSpec

variable {α : Type}

def fieldNames : List String := ["regex", "bounds_from_match"]

def encode (spec : MatcherSpec) : Json α :=
  Json.ofFields [("regex", some (.text spec.regex)),
    ("bounds_from_match", some (.bool spec.boundsFromMatch))]

def decode? (value : Json α) : Option MatcherSpec := do
  match ← Json.slots? fieldNames value with
  | [regex, boundsFromMatch] =>
      return { regex := ← Json.defaulted Json.text? "" regex
               boundsFromMatch := ← Json.defaulted Json.bool? false boundsFromMatch }
  | _ => none

end MatcherSpec

structure NodeSpec (α : Type) where
  name : String := ""
  searchAreas : List (AreaSpec α) := []
  blockText : Option MatcherSpec := none
  lineText : Option MatcherSpec := none
  tags : List String := []
deriving DecidableEq

namespace NodeSpec

variable {α : Type} [Scalar α]

def fieldNames : List String := ["name", "search_areas", "block_text", "line_text", "tags"]

def encode (spec : NodeSpec α) : Json α :=
  Json.ofFields
    [("name", some (.text spec.name)),
      ("search_areas", Json.nonempty? AreaSpec.encode spec.searchAreas),
      ("block_text", spec.blockText.map MatcherSpec.encode),
      ("line_text", spec.lineText.map MatcherSpec.encode),
      ("tags", Json.nonempty? .text spec.tags)]

def decode? (value : Json α) : Option (NodeSpec α) := do
  match ← Json.slots? fieldNames value with
  | [name, searchAreas, blockText, lineText, tags] =>
      return { name := ← Json.defaulted Json.text? "" name
               searchAreas := ← Json.defaulted (Json.list? AreaSpec.decode?) [] searchAreas
               blockText := ← Json.optional MatcherSpec.decode? blockText
               lineText := ← Json.optional MatcherSpec.decode? lineText
               tags := ← Json.defaulted (Json.list? Json.text?) [] tags }
  | _ => none

end NodeSpec

structure SketchSpec (α : Type) where
  tags : List String := []
  nodes : List (NodeSpec α) := []
deriving DecidableEq

namespace SketchSpec

variable {α : Type} [Scalar α]

def fieldNames : List String := ["tags", "nodes"]

def encode (spec : SketchSpec α) : Json α :=
  Json.ofFields [("tags", Json.nonempty? .text spec.tags),
    ("nodes", Json.nonempty? NodeSpec.encode spec.nodes)]

def decode? (value : Json α) : Option (SketchSpec α) := do
  match ← Json.slots? fieldNames value with
  | [tags, nodes] =>
      return { tags := ← Json.defaulted (Json.list? Json.text?) [] tags
               nodes := ← Json.defaulted (Json.list? NodeSpec.decode?) [] nodes }
  | _ => none

end SketchSpec

end PageSketch
