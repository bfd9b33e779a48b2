import PageSketch.Area.AnchoredRect
import PageSketch.Sketch.Locator
import PageSketch.Sketch.Tags

/-! # Nodes of a sketch

A node is searched for in several areas, one after the other. Areas that depend on
nodes without a place are passed over. -/

namespace PageSketch

inductive NodeProblem where
  | noMatcher (name : String)
  | twoMatchers (name : String)
  | noArea (name : String)
  /-- There is no locator although nothing is wrong with the matcher. -/
  | lacksMatcher (name : String)
deriving DecidableEq, Repr

namespace NodeProblem

def toFailure : NodeProblem → Failure
  | .noMatcher name =>
      .cause (.badConfig ("node " ++ Text.quoted name
        ++ " has unsupported match type (neither block_text nor line_text)"))
  | .twoMatchers name =>
      .cause (.badConfig ("node " ++ Text.quoted name
        ++ " has unsupported match type (both block_text and line_text)"))
  | .noArea name =>
      .cause (.incompleteConfig ("node " ++ Text.quoted name
        ++ " requires at least one search area"))
  | .lacksMatcher name =>
      .cause (.incompleteConfig ("node " ++ Text.quoted name ++ " lacks a matcher"))

end NodeProblem

structure SketchNode (α : Type) where
  name : String
  areas : List (AnchoredRect α)
  locator : TextLocator
  tags : List String

namespace NodeSpec

variable {α : Type} [Scalar α]

def readTags (spec : NodeSpec α) : Except Failure (List String) :=
  (Tags.check spec.tags).mapError TagProblems.toFailure

def locator (spec : NodeSpec α) : Except Failure TextLocator :=
  match spec.blockText, spec.lineText with
  | some matcher, none => TextLocator.ofSpec .block matcher
  | none, some matcher => TextLocator.ofSpec .line matcher
  | none, none => .error (NodeProblem.noMatcher spec.name).toFailure
  | some _, some _ => .error (NodeProblem.twoMatchers spec.name).toFailure

def areas (spec : NodeSpec α) : List (Except Failure (AnchoredRect α)) :=
  spec.searchAreas.zipIdx.map fun (area, index) =>
    Failure.atPlace ("search area " ++ toString index) (AnchoredRect.ofSpec area)

def checkAreas (spec : NodeSpec α) : Except Failure Unit :=
  if spec.searchAreas.isEmpty then .error (NodeProblem.noArea spec.name).toFailure else .ok ()

def failures (spec : NodeSpec α) : List Failure :=
  (Failure.ofOutcome? spec.readTags).toList ++ (Failure.ofOutcome? spec.locator).toList
    ++ spec.areas.filterMap Failure.ofOutcome? ++ (Failure.ofOutcome? spec.checkAreas).toList

/-- The node that is meant. The problems of all parts are told together. -/
def compile (spec : NodeSpec α) : Except Failure (SketchNode α) := do
  Failure.checkAll spec.failures
  match spec.locator.toOption with
  | none => throw (NodeProblem.lacksMatcher spec.name).toFailure
  | some locator =>
      return {
        name := spec.name
        areas := spec.areas.filterMap Except.toOption
        locator
        tags := spec.readTags.toOption.getD [] }

end NodeSpec

structure NodeResult (α : Type) where
  node : SketchNode α
  /-- The areas that could be resolved, in order. -/
  areas : List (Rect α)
  located : Option (Located α)

namespace NodeResult

variable {α : Type}

def name (result : NodeResult α) : String := result.node.name

def tags (result : NodeResult α) : List String := result.node.tags

def isValid (result : NodeResult α) : Bool := result.located.isSome

def bounds? (result : NodeResult α) : Option (Rect α) := result.located.map (·.bounds)

def text? (result : NodeResult α) : Option String := result.located.map (·.text)

def match? (result : NodeResult α) : Option PatternMatch := result.located.map (·.found)

variable [Scalar α]

def featurePosition (result : NodeResult α) (feature : Feature) : Except Failure (Point α) :=
  match result.bounds? with
  | none =>
      .error (.cause (.positionUnknown
        ("node " ++ Text.quoted result.name ++ " has no position")))
  | some bounds =>
      match feature.locate? bounds with
      | some point => .ok point
      | none =>
          .error (.cause (.featureUnavailable
            ("node " ++ Text.quoted result.name ++ " lacks feature " ++ feature.name)))

end NodeResult

namespace SketchNode

variable {α : Type} [Scalar α]

def references (node : SketchNode α) : List FeatureRef := node.areas.flatMap AnchoredRect.required

/-- The rectangle of an area; none if a node on which it depends has no place. -/
def resolveArea (lookup : FeatureLookup α) (area : AnchoredRect α) (index : Nat) :
    Except Failure (Option (Rect α)) :=
  match area.resolve lookup with
  | .ok rect => .ok (some rect)
  | .error failure =>
      if failure.is .positionUnknown then .ok none
      else .error (.within ("search area " ++ toString index) failure)

def resolveAreas (node : SketchNode α) (lookup : FeatureLookup α) :
    Except Failure (List (Rect α)) := do
  let areas ← node.areas.zipIdx.mapM fun (area, index) => resolveArea lookup area index
  return areas.filterMap id

/-- Searches for a node on a page: in the first area in which something is found. -/
def search [SpatialIndex α] (node : SketchNode α) (page : Page α) (lookup : FeatureLookup α) :
    Except Failure (NodeResult α) := do
  let areas ← node.resolveAreas lookup
  return { node, areas, located := areas.findSome? (node.locator.locate? page) }

end SketchNode

end PageSketch
