import PageSketch.Sketch.ReferenceGraph

/-! # Evaluation order by recursion

The same order as a depth first traversal that calls itself for every node to which
a node refers. It is the plain description of the walk with a stack. -/

namespace PageSketch.ReferenceGraph

variable {count : Nat}

/-- Follows the given references of a node, then finishes the node. The nodes from
which it was reached are given latest first, and so are those that are finished. -/
def explore (graph : ReferenceGraph count) (node : Fin count) (above : List (Fin count))
    (finished : List (Fin count)) (pending : List FeatureRef) :
    Except OrderProblem (List (Fin count)) :=
  match pending with
  | [] => .ok (node :: finished)
  | ref :: rest =>
      match graph.target node ref with
      | .error problem => .error problem
      | .ok other =>
          if _ : other ∈ node :: above then
            .error (graph.cycleProblem (node :: above) other)
          else if other ∈ finished then
            graph.explore node above finished rest
          else
            match graph.explore other (node :: above) finished (graph.references other) with
            | .error problem => .error problem
            | .ok finished => graph.explore node above finished rest
termination_by (countOutside (node :: above), pending.length)
decreasing_by
  · exact .right _ (by simp)
  · exact .left _ _ (countOutside_cons_lt ‹_›)
  · exact .right _ (by simp)

/-- Explores a node, unless it is finished. -/
def exploreFrom (graph : ReferenceGraph count) (finished : List (Fin count)) (root : Fin count) :
    Except OrderProblem (List (Fin count)) :=
  if root ∈ finished then .ok finished
  else graph.explore root [] finished (graph.references root)

def recursiveOrder (graph : ReferenceGraph count) : Except OrderProblem (List (Fin count)) :=
  match graph.repeatedName? with
  | some problem => .error problem
  | none => do
      let finished ← (List.finRange count).foldlM graph.exploreFrom []
      return finished.reverse

end PageSketch.ReferenceGraph
