import PageSketch.Sketch.ReferenceGraph

/-! # Evaluation order

Nodes are put into an order in which each comes after all nodes to which it refers.
The walk goes along references as far as it can before it turns to the next one,
and keeps the path on which it is as a stack. -/

namespace PageSketch.ReferenceGraph

variable {count : Nat}

/-- A node on the path, with the references that have not been followed yet. -/
structure Frame (count : Nat) where
  node : Fin count
  pending : List FeatureRef

structure Walk (count : Nat) where
  /-- The path, latest node first. -/
  stack : List (Frame count)
  /-- All nodes that have been on the path. -/
  visited : List (Fin count)
  /-- The nodes that are finished, latest first. -/
  finished : List (Fin count)

namespace Walk

def path (walk : Walk count) : List (Fin count) := walk.stack.map (·.node)

def enter (graph : ReferenceGraph count) (node : Fin count) (walk : Walk count) : Walk count :=
  { walk with
    stack := ⟨node, graph.references node⟩ :: walk.stack
    visited := node :: walk.visited }

/-- How much there is to do on a path. -/
def stackWork : List (Frame count) → Nat
  | [] => 0
  | frame :: below => frame.pending.length + 1 + stackWork below

def work (walk : Walk count) : Nat := stackWork walk.stack

end Walk

/-- Follows one more reference of the latest node on the path. If there is none, the
node is finished. -/
def step (graph : ReferenceGraph count) (walk : Walk count) :
    Except OrderProblem (Walk count) :=
  match walk.stack with
  | [] => .ok walk
  | ⟨node, []⟩ :: below => .ok { walk with stack := below, finished := node :: walk.finished }
  | ⟨node, ref :: pending⟩ :: below =>
      match graph.target node ref with
      | .error problem => .error problem
      | .ok other =>
          if walk.path.contains other then
            .error (graph.cycleProblem walk.path other)
          else
            let rest : Walk count := { walk with stack := ⟨node, pending⟩ :: below }
            .ok (if walk.visited.contains other then rest else rest.enter graph other)

theorem step_decreases {graph : ReferenceGraph count} {walk next : Walk count}
    (unfinished : walk.stack ≠ []) (stepped : graph.step walk = .ok next) :
    Prod.Lex (· < ·) (· < ·) (countOutside next.visited, next.work)
      (countOutside walk.visited, walk.work) := by
  obtain ⟨stack, visited, finished⟩ := walk
  cases stack with
  | nil => exact absurd rfl unfinished
  | cons frame below =>
      obtain ⟨node, pending⟩ := frame
      cases pending with
      | nil =>
          simp only [step, Except.ok.injEq] at stepped
          subst stepped
          exact .right _ (by simp [Walk.work, Walk.stackWork])
      | cons ref pending =>
          simp only [step] at stepped
          split at stepped
          · cases stepped
          · split at stepped
            · cases stepped
            · simp only [Except.ok.injEq] at stepped
              subst stepped
              split
              · exact .right _ (by simp [Walk.work, Walk.stackWork])
              · next fresh => exact .left _ _ (countOutside_cons_lt (by simpa using fresh))

def run (graph : ReferenceGraph count) (walk : Walk count) : Except OrderProblem (Walk count) :=
  if _ : walk.stack = [] then
    .ok walk
  else
    match _ : graph.step walk with
    | .error problem => .error problem
    | .ok next => graph.run next
termination_by (countOutside walk.visited, walk.work)
decreasing_by exact step_decreases ‹_› ‹_›

def walkFrom (graph : ReferenceGraph count) (walk : Walk count) (root : Fin count) :
    Except OrderProblem (Walk count) :=
  if walk.visited.contains root then .ok walk else graph.run (walk.enter graph root)

/-- All nodes in an order in which they can be evaluated. -/
def evaluationOrder (graph : ReferenceGraph count) : Except OrderProblem (List (Fin count)) :=
  match graph.repeatedName? with
  | some problem => .error problem
  | none => do
      let walk ← (List.finRange count).foldlM graph.walkFrom ⟨[], [], []⟩
      return walk.finished.reverse

end PageSketch.ReferenceGraph
