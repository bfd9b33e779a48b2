import PageSketch.Json.Contents
import PageSketch.Sketch.EvaluationOrder
import PageSketch.Sketch.Node

/-! # Sketches

A sketch declares nodes. It is compiled once: everything that can be wrong with its
tags and its nodes is told together, and then an evaluation order is found. -/

namespace PageSketch

structure Sketch (α : Type) where
  tags : List String
  nodes : List (SketchNode α)
  /-- The numbers of all nodes, each after the nodes to which it refers. -/
  order : List (Fin nodes.length)

def SketchNode.graph {α : Type} [Scalar α] (nodes : List (SketchNode α)) :
    ReferenceGraph nodes.length where
  name index := nodes[index].name
  references index := nodes[index].references

namespace Sketch

variable {α : Type} [Scalar α]

/-- The sketch of compiled nodes, if they can be put into an order. -/
def ofNodes (tags : List String) (nodes : List (SketchNode α)) : Except Failure (Sketch α) := do
  let order ← (SketchNode.graph nodes).evaluationOrder.mapError OrderProblem.toFailure
  return { tags, nodes, order }

def orderedNodes (sketch : Sketch α) : List (SketchNode α) :=
  sketch.order.map fun index => sketch.nodes[index]

end Sketch

namespace SketchSpec

variable {α : Type} [Scalar α]

def readTags (spec : SketchSpec α) : Except Failure (List String) :=
  (Tags.check spec.tags).mapError TagProblems.toFailure

def compiledNodes (spec : SketchSpec α) : List (Except Failure (SketchNode α)) :=
  spec.nodes.map fun node => Failure.atPlace ("node " ++ node.name) node.compile

def failures (spec : SketchSpec α) : List Failure :=
  (Failure.ofOutcome? spec.readTags).toList ++ spec.compiledNodes.filterMap Failure.ofOutcome?

def compile (spec : SketchSpec α) : Except Failure (Sketch α) := do
  Failure.checkAll spec.failures
  Sketch.ofNodes (← spec.readTags) (spec.compiledNodes.filterMap Except.toOption)

end SketchSpec

def Sketch.ofFile {α : Type} [Scalar α] (path : String) (contents : Option ByteArray) :
    Except Failure (Sketch α) :=
  Failure.atPlace path do
    (← Json.ofContents SketchSpec.decode? contents).compile

end PageSketch
