import Mathlib.Data.List.Chain
import Mathlib.Data.List.Nodup
import Mathlib.Logic.Relation
import Mathlib.Order.Fin.Basic
import PageSketch.Proofs.Outcomes
import PageSketch.Sketch.EvaluationOrder

/-! # Walks along references

A walk moves by finishing a node, passing over a reference, or entering a node, and
stops at a reference that cannot be followed. Every move keeps the path linked and
the finished nodes closed under references. -/

namespace PageSketch.ReferenceGraph

variable {count : Nat} {graph : ReferenceGraph count}

/-! ## Following references -/

theorem name_of_indexOf? {name : String} {node : Fin count}
    (found : graph.indexOf? name = some node) : graph.name node = name := by
  simpa using List.find?_some found

theorem indexOf?_eq_none {name : String} :
    graph.indexOf? name = none ↔ ∀ node, graph.name node ≠ name := by
  simp [indexOf?, List.find?_eq_none]

theorem target_eq_ok {node other : Fin count} {ref : FeatureRef} :
    graph.target node ref = .ok other ↔
      graph.indexOf? ref.node = some other ∧ ref.feature.isPoint = true := by
  rw [target]
  cases found : graph.indexOf? ref.node with
  | none => simp
  | some first => by_cases point : ref.feature.isPoint <;> simp [point]

theorem target_eq_error {node : Fin count} {ref : FeatureRef} {problem : OrderProblem} :
    graph.target node ref = .error problem ↔
      graph.indexOf? ref.node = none ∧ problem = .unknownNode (graph.name node) ref.node ∨
        ∃ other, graph.indexOf? ref.node = some other ∧ ref.feature.isPoint = false ∧
          problem = .noSuchFeature (graph.name node) (graph.name other) ref.feature := by
  rw [target]
  cases found : graph.indexOf? ref.node with
  | none => simp [@eq_comm _ problem]
  | some first =>
      cases point : ref.feature.isPoint with
      | true => simp
      | false => simp [@eq_comm _ problem]

theorem refersTo_of_target {node other : Fin count} {ref : FeatureRef}
    (member : ref ∈ graph.references node) (found : graph.target node ref = .ok other) :
    graph.RefersTo node other :=
  ⟨ref, member, (name_of_indexOf? (target_eq_ok.mp found).1).symm⟩

/-! ## Moves -/

/-- One step of a walk whose path is not empty. -/
inductive Moves (graph : ReferenceGraph count) : Walk count → Walk count → Prop
  | finish {node below visited finished} :
      Moves graph ⟨⟨node, []⟩ :: below, visited, finished⟩ ⟨below, visited, node :: finished⟩
  | pass {node ref pending below visited finished other}
      (found : graph.target node ref = .ok other)
      (offPath : other ∉ node :: below.map Frame.node) (known : other ∈ visited) :
      Moves graph ⟨⟨node, ref :: pending⟩ :: below, visited, finished⟩
        ⟨⟨node, pending⟩ :: below, visited, finished⟩
  | enter {node ref pending below visited finished other}
      (found : graph.target node ref = .ok other) (fresh : other ∉ visited) :
      Moves graph ⟨⟨node, ref :: pending⟩ :: below, visited, finished⟩
        ⟨⟨other, graph.references other⟩ :: ⟨node, pending⟩ :: below, other :: visited, finished⟩

/-- A walk cannot go on: the next reference cannot be followed, or it leads back to
the path. -/
inductive Stops (graph : ReferenceGraph count) : Walk count → OrderProblem → Prop
  | target {node ref pending below visited finished problem}
      (failed : graph.target node ref = .error problem) :
      Stops graph ⟨⟨node, ref :: pending⟩ :: below, visited, finished⟩ problem
  | cycle {node ref pending below visited finished other}
      (found : graph.target node ref = .ok other)
      (onPath : other ∈ node :: below.map Frame.node) :
      Stops graph ⟨⟨node, ref :: pending⟩ :: below, visited, finished⟩
        (graph.cycleProblem (node :: below.map Frame.node) other)

theorem step_of_target {node other : Fin count} {ref : FeatureRef} {pending : List FeatureRef}
    {below : List (Frame count)} {visited finished : List (Fin count)}
    (found : graph.target node ref = .ok other) :
    graph.step ⟨⟨node, ref :: pending⟩ :: below, visited, finished⟩ =
      if other ∈ node :: below.map Frame.node then
        .error (graph.cycleProblem (node :: below.map Frame.node) other)
      else
        .ok (if other ∈ visited then ⟨⟨node, pending⟩ :: below, visited, finished⟩
          else Walk.enter graph other ⟨⟨node, pending⟩ :: below, visited, finished⟩) := by
  simp only [step, found, Walk.path, List.map_cons, List.contains_eq_mem, decide_eq_true_eq]

theorem moves_of_step {walk next : Walk count} (unfinished : walk.stack ≠ [])
    (stepped : graph.step walk = .ok next) : graph.Moves walk next := by
  obtain ⟨stack, visited, finished⟩ := walk
  match stack with
  | [] => exact absurd rfl unfinished
  | ⟨node, []⟩ :: below =>
      cases stepped
      exact .finish
  | ⟨node, ref :: pending⟩ :: below =>
      cases found : graph.target node ref with
      | error problem => simp [step, found] at stepped
      | ok other =>
          rw [step_of_target found] at stepped
          split at stepped
          · cases stepped
          · next offPath =>
              by_cases known : other ∈ visited
              · rw [if_pos known] at stepped
                cases stepped
                exact .pass found offPath known
              · rw [if_neg known] at stepped
                cases stepped
                exact .enter found known

theorem stops_of_step {walk : Walk count} {problem : OrderProblem}
    (stopped : graph.step walk = .error problem) : graph.Stops walk problem := by
  obtain ⟨stack, visited, finished⟩ := walk
  match stack with
  | [] => cases stopped
  | ⟨node, []⟩ :: below => cases stopped
  | ⟨node, ref :: pending⟩ :: below =>
      cases found : graph.target node ref with
      | error other =>
          have equal : other = problem := by simpa [step, found] using stopped
          exact equal ▸ .target found
      | ok other =>
          rw [step_of_target found] at stopped
          split at stopped
          · next onPath =>
              cases stopped
              exact .cycle found onPath
          · cases stopped

/-! ## Runs -/

theorem run_eq_ok {walk final : Walk count} (ran : graph.run walk = .ok final) :
    Relation.ReflTransGen graph.Moves walk final ∧ final.stack = [] := by
  fun_induction run graph walk with
  | case1 walk empty =>
      cases ran
      exact ⟨.refl, empty⟩
  | case2 walk unfinished problem stopped => cases ran
  | case3 walk unfinished next stepped induction =>
      rcases induction ran with ⟨moves, empty⟩
      exact ⟨.head (moves_of_step unfinished stepped) moves, empty⟩

theorem run_eq_error {walk : Walk count} {problem : OrderProblem}
    (ran : graph.run walk = .error problem) :
    ∃ last, Relation.ReflTransGen graph.Moves walk last ∧ graph.Stops last problem := by
  fun_induction run graph walk with
  | case1 walk empty => cases ran
  | case2 walk unfinished other stopped =>
      cases ran
      exact ⟨walk, .refl, stops_of_step stopped⟩
  | case3 walk unfinished next stepped induction =>
      rcases induction ran with ⟨last, moves, stops⟩
      exact ⟨last, .head (moves_of_step unfinished stepped) moves, stops⟩

/-! ## What moves keep -/

/-- On every frame, a reference is pending or leads to a node that is done. To the
frames below, the nodes above them are done as well. -/
def Settled (graph : ReferenceGraph count) : List (Fin count) → List (Frame count) → Prop
  | _, [] => True
  | done, frame :: below =>
      (∀ ref ∈ frame.pending, ref ∈ graph.references frame.node) ∧
        (∀ ref ∈ graph.references frame.node,
          ref ∈ frame.pending ∨ ∃ other ∈ done, graph.target frame.node ref = .ok other) ∧
        Settled graph (frame.node :: done) below

theorem Settled.mono {done more : List (Fin count)} {stack : List (Frame count)}
    (subset : done ⊆ more) (settled : graph.Settled done stack) : graph.Settled more stack := by
  induction stack generalizing done more with
  | nil => trivial
  | cons frame below induction =>
      obtain ⟨own, led, deeper⟩ := settled
      refine ⟨own, fun ref member => ?_, induction (List.cons_subset_cons _ subset) deeper⟩
      rcases led ref member with pending | ⟨other, reached, found⟩
      · exact .inl pending
      · exact .inr ⟨other, subset reached, found⟩

/-- In a list of nodes with the latest first, references lead to earlier nodes. -/
def Closed (graph : ReferenceGraph count) : List (Fin count) → Prop
  | [] => True
  | node :: earlier =>
      (∀ ref ∈ graph.references node,
        ∃ other ∈ earlier, graph.target node ref = .ok other) ∧ Closed graph earlier

/-- What is true of a walk at every moment. -/
structure Walk.Valid (graph : ReferenceGraph count) (walk : Walk count) : Prop where
  visited_iff : ∀ node, node ∈ walk.visited ↔ node ∈ walk.path ∨ node ∈ walk.finished
  nodup : (walk.path ++ walk.finished).Nodup
  linked : walk.path.IsChain fun upper lower => graph.RefersTo lower upper
  settled : graph.Settled walk.finished walk.stack
  closed : graph.Closed walk.finished

namespace Walk.Valid

theorem start : Walk.Valid graph ⟨[], [], []⟩ where
  visited_iff node := by simp [path]
  nodup := by simp [path]
  linked := .nil
  settled := trivial
  closed := trivial

theorem enter {walk : Walk count} (valid : walk.Valid graph) (empty : walk.stack = [])
    {root : Fin count} (fresh : root ∉ walk.visited) : (walk.enter graph root).Valid graph := by
  obtain ⟨stack, visited, finished⟩ := walk
  cases empty
  have unfinished : root ∉ finished := fun member =>
    fresh ((valid.visited_iff root).mpr (.inr member))
  have nodup : finished.Nodup := by simpa [path] using valid.nodup
  exact {
    visited_iff := fun node => by simp [Walk.enter, path, valid.visited_iff]
    nodup := List.nodup_cons.mpr ⟨unfinished, nodup⟩
    linked := .singleton root
    settled := ⟨fun _ member => member, fun _ member => .inl member, trivial⟩
    closed := valid.closed }

theorem finish {node : Fin count} {below : List (Frame count)}
    {visited finished : List (Fin count)}
    (valid : Walk.Valid graph ⟨⟨node, []⟩ :: below, visited, finished⟩) :
    Walk.Valid graph ⟨below, visited, node :: finished⟩ where
  visited_iff other := by
    rw [valid.visited_iff]
    simp only [path, List.map_cons, List.mem_cons]
    tauto
  nodup := List.nodup_middle.mpr valid.nodup
  linked := valid.linked.tail
  settled := valid.settled.2.2
  closed := by
    refine ⟨fun ref member => ?_, valid.closed⟩
    rcases valid.settled.2.1 ref member with impossible | reached
    · cases impossible
    · exact reached

theorem pass {node other : Fin count} {ref : FeatureRef} {pending : List FeatureRef}
    {below : List (Frame count)} {visited finished : List (Fin count)}
    (valid : Walk.Valid graph ⟨⟨node, ref :: pending⟩ :: below, visited, finished⟩)
    (found : graph.target node ref = .ok other)
    (offPath : other ∉ node :: below.map Frame.node) (known : other ∈ visited) :
    Walk.Valid graph ⟨⟨node, pending⟩ :: below, visited, finished⟩ where
  visited_iff := valid.visited_iff
  nodup := valid.nodup
  linked := valid.linked
  settled := by
    obtain ⟨own, led, deeper⟩ := valid.settled
    -- A visited node is on the path or finished, and on the path it would close a cycle.
    have done : other ∈ finished := ((valid.visited_iff other).mp known).resolve_left offPath
    refine ⟨fun next member => own next (List.mem_cons_of_mem ref member),
      fun next member => ?_, deeper⟩
    rcases led next member with here | reached
    · rcases List.mem_cons.mp here with rfl | later
      · exact .inr ⟨other, done, found⟩
      · exact .inl later
    · exact .inr reached
  closed := valid.closed

theorem descend {node other : Fin count} {ref : FeatureRef} {pending : List FeatureRef}
    {below : List (Frame count)} {visited finished : List (Fin count)}
    (valid : Walk.Valid graph ⟨⟨node, ref :: pending⟩ :: below, visited, finished⟩)
    (found : graph.target node ref = .ok other) (fresh : other ∉ visited) :
    Walk.Valid graph ⟨⟨other, graph.references other⟩ :: ⟨node, pending⟩ :: below,
      other :: visited, finished⟩ where
  visited_iff next := by
    rw [List.mem_cons, valid.visited_iff]
    simp only [path, List.map_cons, List.mem_cons]
    tauto
  nodup := by
    refine List.nodup_cons.mpr ⟨fun member => fresh ?_, valid.nodup⟩
    exact (valid.visited_iff other).mpr (List.mem_append.mp member)
  linked := by
    have own := valid.settled.1 ref List.mem_cons_self
    exact .cons_cons (refersTo_of_target own found) valid.linked
  settled := by
    obtain ⟨own, led, deeper⟩ := valid.settled
    -- The reference is no longer pending below `other`, where `other` counts as done.
    refine ⟨fun _ member => member, fun _ member => .inl member,
      fun next member => own next (List.mem_cons_of_mem ref member), fun next member => ?_,
      deeper.mono (List.cons_subset_cons node (List.subset_cons_self other finished))⟩
    rcases led next member with here | ⟨last, reached, followed⟩
    · rcases List.mem_cons.mp here with rfl | later
      · exact .inr ⟨other, List.mem_cons_self, found⟩
      · exact .inl later
    · exact .inr ⟨last, List.mem_cons_of_mem other reached, followed⟩
  closed := valid.closed

theorem moves {walk next : Walk count} (valid : walk.Valid graph)
    (move : graph.Moves walk next) : next.Valid graph := by
  cases move with
  | finish => exact valid.finish
  | pass found offPath known => exact valid.pass found offPath known
  | enter found fresh => exact valid.descend found fresh

/-- Whatever is true of every walk stays so for as long as the walk goes on. -/
theorem run {walk final : Walk count} (valid : walk.Valid graph)
    (ran : Relation.ReflTransGen graph.Moves walk final) : final.Valid graph := by
  induction ran with
  | refl => exact valid
  | tail _ move induction => exact induction.moves move

end Walk.Valid

theorem Moves.visited_subset {walk next : Walk count} (move : graph.Moves walk next) :
    walk.visited ⊆ next.visited := by
  cases move with
  | finish | pass => exact List.Subset.refl _
  | enter => exact List.subset_cons_self _ _

theorem visited_subset_of_run {walk final : Walk count}
    (ran : Relation.ReflTransGen graph.Moves walk final) : walk.visited ⊆ final.visited := by
  induction ran with
  | refl => exact List.Subset.refl _
  | tail _ move induction => exact List.Subset.trans induction move.visited_subset

end PageSketch.ReferenceGraph
