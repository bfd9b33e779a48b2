import PageSketch.Proofs.EvaluationOrder
import PageSketch.Sketch.RecursiveOrder

/-! # The walk and the recursion

The walk with a stack goes through a graph as the recursive traversal does. While the
recursion explores a node, the walk moves from the frame of the node down to the frames
below it, or stops at the same problem. So both give the same order and the same problem. -/

namespace PageSketch

namespace ReferenceGraph

variable {count : Nat} {graph : ReferenceGraph count}

/-! ## Walks are determined -/

/-- The loop cannot go on for ever. -/
theorem wellFounded_step (graph : ReferenceGraph count) :
    WellFounded fun next walk : Walk count =>
      walk.stack ≠ [] ∧ graph.step walk = .ok next := by
  have measured : WellFounded fun next walk : Walk count =>
      Prod.Lex (· < ·) (· < ·) (countOutside next.visited, next.work)
        (countOutside walk.visited, walk.work) :=
    InvImage.wf (fun walk : Walk count => (countOutside walk.visited, walk.work))
      (WellFoundedRelation.wf : WellFounded (Prod.Lex (· < ·) (· < ·)))
  exact Subrelation.wf (fun both => step_decreases both.1 both.2) measured

theorem step_of_moves {walk next : Walk count} (valid : walk.Valid graph)
    (move : graph.Moves walk next) : walk.stack ≠ [] ∧ graph.step walk = .ok next := by
  cases move with
  | finish => exact ⟨List.cons_ne_nil _ _, rfl⟩
  | pass found offPath known =>
      refine ⟨List.cons_ne_nil _ _, ?_⟩
      rw [step_of_target found, if_neg offPath, if_pos known]
  | @enter node ref pending below visited finished other found fresh =>
      have offPath : other ∉ node :: below.map Frame.node := fun onPath =>
        fresh ((valid.visited_iff other).mpr (.inl onPath))
      refine ⟨List.cons_ne_nil _ _, ?_⟩
      rw [step_of_target found, if_neg offPath, if_neg fresh]
      rfl

theorem step_of_stops {walk : Walk count} {problem : OrderProblem}
    (stops : graph.Stops walk problem) :
    walk.stack ≠ [] ∧ graph.step walk = .error problem := by
  cases stops with
  | target failed => exact ⟨List.cons_ne_nil _ _, by simp only [step, failed]⟩
  | cycle found onPath =>
      refine ⟨List.cons_ne_nil _ _, ?_⟩
      rw [step_of_target found, if_pos onPath]

theorem run_of_empty {walk : Walk count} (empty : walk.stack = []) :
    graph.run walk = .ok walk := by
  rw [run, dif_pos empty]

theorem run_of_step {walk next : Walk count} (unfinished : walk.stack ≠ [])
    (stepped : graph.step walk = .ok next) : graph.run walk = graph.run next := by
  rw [run, dif_neg unfinished]
  split
  · next failed => rw [stepped] at failed; cases failed
  · next other same =>
      rw [stepped] at same
      cases same
      rfl

theorem run_of_stops {walk : Walk count} {problem : OrderProblem}
    (stops : graph.Stops walk problem) : graph.run walk = .error problem := by
  rcases step_of_stops stops with ⟨unfinished, stopped⟩
  rw [run, dif_neg unfinished]
  split
  · next failed =>
      rw [stopped] at failed
      cases failed
      rfl
  · next same => rw [stopped] at same; cases same

theorem run_of_moves {walk last : Walk count} (valid : walk.Valid graph)
    (moves : Relation.ReflTransGen graph.Moves walk last) : graph.run walk = graph.run last := by
  induction moves with
  | refl => rfl
  | tail before move induction =>
      rcases step_of_moves (valid.run before) move with ⟨unfinished, stepped⟩
      rw [induction, run_of_step unfinished stepped]

/-! ## Exploring a node -/

/-- From a walk, the moves lead down to given frames with what the recursion has finished,
or to the problem of the recursion. -/
def Follows (graph : ReferenceGraph count) (walk : Walk count) (below : List (Frame count)) :
    Except OrderProblem (List (Fin count)) → Prop
  | .ok finished => ∃ visited, Relation.ReflTransGen graph.Moves walk ⟨below, visited, finished⟩
  | .error problem =>
      ∃ last, Relation.ReflTransGen graph.Moves walk last ∧ graph.Stops last problem

theorem Follows.head {walk next : Walk count} {below : List (Frame count)}
    {outcome : Except OrderProblem (List (Fin count))}
    (moves : Relation.ReflTransGen graph.Moves walk next)
    (follows : graph.Follows next below outcome) : graph.Follows walk below outcome := by
  cases outcome with
  | ok finished =>
      rcases follows with ⟨visited, rest⟩
      exact ⟨visited, moves.trans rest⟩
  | error problem =>
      rcases follows with ⟨last, rest, stops⟩
      exact ⟨last, moves.trans rest, stops⟩

/-- If the moves lead down to no frames, the run gives what the recursion gives. -/
theorem Follows.run {walk : Walk count} {outcome : Except OrderProblem (List (Fin count))}
    (valid : walk.Valid graph) (follows : graph.Follows walk [] outcome) :
    Walk.finished <$> graph.run walk = outcome := by
  cases outcome with
  | ok finished =>
      rcases follows with ⟨visited, moves⟩
      rw [run_of_moves valid moves, run_of_empty rfl]
      rfl
  | error problem =>
      rcases follows with ⟨last, moves, stops⟩
      rw [run_of_moves valid moves, run_of_stops stops]
      rfl

/-- The recursion on the pending references of a node is what the walk does with the frame of
the node on top of the path from which the recursion has come. -/
theorem follows_explore {node : Fin count} {above finished : List (Fin count)}
    {pending : List FeatureRef} {below : List (Frame count)} {visited : List (Fin count)}
    (path : below.map Frame.node = above)
    (valid : Walk.Valid graph ⟨⟨node, pending⟩ :: below, visited, finished⟩) :
    graph.Follows ⟨⟨node, pending⟩ :: below, visited, finished⟩ below
      (graph.explore node above finished pending) := by
  fun_induction explore graph node above finished pending generalizing below visited with
  | case1 => exact ⟨visited, .single .finish⟩
  | case2 node above finished ref rest problem failed =>
      exact ⟨_, .refl, .target failed⟩
  | case3 node above finished ref rest other found onPath =>
      subst path
      exact ⟨_, .refl, .cycle found onPath⟩
  | case4 node above finished ref rest other found offPath done induction =>
      subst path
      have known : other ∈ visited := (valid.visited_iff other).mpr (.inr done)
      exact (induction rfl (valid.pass found offPath known)).head
        (.single (.pass found offPath known))
  | case5 node above finished ref rest other found offPath fresh problem explored induction =>
      subst path
      have unknown : other ∉ visited := fun known =>
        ((valid.visited_iff other).mp known).elim offPath fresh
      have inner := induction rfl (valid.descend found unknown)
      rw [explored] at inner
      exact inner.head (.single (.enter found unknown))
  | case6 node above finished ref rest other found offPath fresh later explored inner outer =>
      subst path
      have unknown : other ∉ visited := fun known =>
        ((valid.visited_iff other).mp known).elim offPath fresh
      have entered := valid.descend found unknown
      have followed := inner rfl entered
      rw [explored] at followed
      rcases followed with ⟨reached, moves⟩
      -- The walk is back on the frame of `node`, of which one reference is done.
      exact (outer rfl (entered.run moves)).head (.head (.enter found unknown) moves)

/-! ## Exploring all nodes -/

theorem walkFrom_eq_exploreFrom {walk : Walk count} (rests : walk.Rests graph)
    (root : Fin count) :
    Walk.finished <$> graph.walkFrom walk root = graph.exploreFrom walk.finished root := by
  obtain ⟨stack, visited, finished⟩ := walk
  cases rests.empty
  have known : root ∈ visited ↔ root ∈ finished := by
    simpa [Walk.path] using rests.valid.visited_iff root
  rw [walkFrom, exploreFrom]
  by_cases done : root ∈ finished
  · rw [if_pos (List.contains_iff_mem.mpr (known.mpr done)), if_pos done]
    rfl
  · have fresh : root ∉ visited := fun member => done (known.mp member)
    have entered := rests.valid.enter rests.empty fresh
    rw [if_neg (mt List.contains_iff_mem.mp fresh), if_neg done]
    exact Follows.run entered (follows_explore rfl entered)

theorem walkAll_eq_exploreAll {roots : List (Fin count)} {walk : Walk count}
    (rests : walk.Rests graph) :
    Walk.finished <$> roots.foldlM graph.walkFrom walk =
      roots.foldlM graph.exploreFrom walk.finished := by
  induction roots generalizing walk with
  | nil => rfl
  | cons root rest induction =>
      rw [List.foldlM_cons, List.foldlM_cons, ← walkFrom_eq_exploreFrom rests root]
      cases walked : graph.walkFrom walk root with
      | error problem => rfl
      | ok next => exact induction (walkFrom_eq_ok rests walked).1

theorem evaluationOrder_eq (graph : ReferenceGraph count) :
    graph.evaluationOrder = graph.recursiveOrder := by
  rw [evaluationOrder, recursiveOrder]
  cases graph.repeatedName? with
  | some problem => rfl
  | none =>
      have same : Walk.finished <$> (List.finRange count).foldlM graph.walkFrom ⟨[], [], []⟩ =
          (List.finRange count).foldlM graph.exploreFrom [] :=
        walkAll_eq_exploreAll rests_start
      simp only [← same, bind_pure_comp, Functor.map_map]

end ReferenceGraph

/-- The loop with a stack ends, whatever the nodes refer to, and it gives exactly what the
recursive traversal gives: the same order, or the same first problem with the same path. -/
theorem SketchNode.evaluationOrder_eq_recursiveOrder {α : Type} [Scalar α]
    (nodes : List (SketchNode α)) :
    (WellFounded fun next walk : ReferenceGraph.Walk nodes.length =>
        walk.stack ≠ [] ∧ (graph nodes).step walk = .ok next) ∧
      (graph nodes).evaluationOrder = (graph nodes).recursiveOrder :=
  ⟨ReferenceGraph.wellFounded_step (graph nodes), ReferenceGraph.evaluationOrder_eq (graph nodes)⟩

end PageSketch
