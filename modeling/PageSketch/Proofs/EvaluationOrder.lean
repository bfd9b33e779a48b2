import Mathlib.Data.Fintype.Card
import PageSketch.Proofs.Walk
import PageSketch.Sketch.Basic

/-! # The evaluation order

The walk from all nodes either ends with all of them finished, each after the nodes
to which it refers, or with a problem that the graph really has. -/

namespace PageSketch

theorem Feature.isPoint_iff {feature : Feature} :
    feature.isPoint = true ↔ feature ∈ [topLeft, topRight, bottomLeft, bottomRight] := by
  cases feature <;> decide

namespace ReferenceGraph

variable {count : Nat} {graph : ReferenceGraph count}

/-! ## Problems -/

/-- A problem that a graph has. -/
inductive Diagnoses (graph : ReferenceGraph count) : OrderProblem → Prop
  | repeatedName {first again} (earlier : first < again)
      (same : graph.name first = graph.name again) :
      Diagnoses graph (.repeatedName (graph.name again) first)
  | unknownNode {node ref} (member : ref ∈ graph.references node)
      (unknown : ∀ other, graph.name other ≠ ref.node) :
      Diagnoses graph (.unknownNode (graph.name node) ref.node)
  | noSuchFeature {node other ref} (member : ref ∈ graph.references node)
      (named : graph.name other = ref.node) (noPoint : ref.feature.isPoint = false) :
      Diagnoses graph (.noSuchFeature (graph.name node) (graph.name other) ref.feature)
  | cycle {path other} (nodup : path.Nodup) (linked : (path ++ [other]).IsChain graph.RefersTo)
      (onPath : other ∈ path) : Diagnoses graph (.cycle ((path ++ [other]).map graph.name))

/-- A valid walk stops only at a problem of the graph. -/
theorem Stops.diagnoses {walk : Walk count} {problem : OrderProblem}
    (stops : graph.Stops walk problem) (valid : walk.Valid graph) : graph.Diagnoses problem := by
  cases stops with
  | @target node ref _ _ _ _ _ failed =>
      have member := valid.settled.1 ref List.mem_cons_self
      rcases target_eq_error.mp failed with ⟨unknown, rfl⟩ | ⟨other, found, noPoint, rfl⟩
      · exact .unknownNode member (indexOf?_eq_none.mp unknown)
      · exact .noSuchFeature member (name_of_indexOf? found) noPoint
  | @cycle node ref _ below _ _ other found onPath =>
      have member := valid.settled.1 ref List.mem_cons_self
      have refers := refersTo_of_target member found
      have nodup : (node :: below.map Frame.node).Nodup := (List.nodup_append.mp valid.nodup).1
      have linked : (other :: node :: below.map Frame.node).IsChain
          fun upper lower => graph.RefersTo lower upper := .cons_cons refers valid.linked
      rw [cycleProblem]
      refine .cycle (List.nodup_reverse.mpr nodup) ?_ (List.mem_reverse.mpr onPath)
      rw [← List.reverse_cons]
      exact List.isChain_reverse.mpr linked

/-! ## Walks from all nodes -/

/-- Where a walk stands when it has come back from everything it entered. -/
structure Walk.Rests (graph : ReferenceGraph count) (walk : Walk count) : Prop where
  valid : walk.Valid graph
  empty : walk.stack = []

theorem walkFrom_eq_ok {walk next : Walk count} {root : Fin count} (rests : walk.Rests graph)
    (walked : graph.walkFrom walk root = .ok next) :
    next.Rests graph ∧ root ∈ next.visited ∧ walk.visited ⊆ next.visited := by
  rw [walkFrom] at walked
  split at walked
  · next known =>
      cases walked
      exact ⟨rests, List.contains_iff_mem.mp known, List.Subset.refl _⟩
  · next fresh =>
      rw [List.contains_iff_mem] at fresh
      rcases run_eq_ok walked with ⟨ran, empty⟩
      have grown := visited_subset_of_run ran
      have entered := rests.valid.enter rests.empty fresh
      exact ⟨⟨entered.run ran, empty⟩, grown List.mem_cons_self,
        List.Subset.trans (List.subset_cons_self root walk.visited) grown⟩

theorem walkFrom_eq_error {walk : Walk count} {root : Fin count} {problem : OrderProblem}
    (rests : walk.Rests graph) (walked : graph.walkFrom walk root = .error problem) :
    graph.Diagnoses problem := by
  rw [walkFrom] at walked
  split at walked
  · cases walked
  · next fresh =>
      rw [List.contains_iff_mem] at fresh
      rcases run_eq_error walked with ⟨last, ran, stops⟩
      exact stops.diagnoses ((rests.valid.enter rests.empty fresh).run ran)

theorem walkAll_eq_ok {roots : List (Fin count)} {walk final : Walk count}
    (rests : walk.Rests graph) (walked : roots.foldlM graph.walkFrom walk = .ok final) :
    final.Rests graph ∧ (∀ root ∈ roots, root ∈ final.visited) ∧
      walk.visited ⊆ final.visited := by
  induction roots generalizing walk with
  | nil =>
      cases walked
      exact ⟨rests, by simp, List.Subset.refl _⟩
  | cons root rest induction =>
      rw [List.foldlM_cons] at walked
      rcases Steps.bind_eq_ok.mp walked with ⟨next, first, others⟩
      rcases walkFrom_eq_ok rests first with ⟨nextRests, reached, grown⟩
      rcases induction nextRests others with ⟨finalRests, later, more⟩
      refine ⟨finalRests, fun node member => ?_, List.Subset.trans grown more⟩
      rcases List.mem_cons.mp member with rfl | member
      · exact more reached
      · exact later node member

theorem walkAll_eq_error {roots : List (Fin count)} {walk : Walk count} {problem : OrderProblem}
    (rests : walk.Rests graph) (walked : roots.foldlM graph.walkFrom walk = .error problem) :
    graph.Diagnoses problem := by
  rcases Steps.foldlM_eq_error walked with ⟨before, root, after, state, _, reached, stopped⟩
  exact walkFrom_eq_error (walkAll_eq_ok rests reached).1 stopped

theorem rests_start : Walk.Rests graph ⟨[], [], []⟩ := ⟨.start, rfl⟩

/-! ## Names -/

/-- The first node before another that has the same name. -/
def earlierNamesake? (graph : ReferenceGraph count) (node : Fin count) : Option (Fin count) :=
  (List.finRange count).find? fun earlier =>
    earlier < node ∧ graph.name earlier = graph.name node

theorem earlierNamesake?_eq_none {node : Fin count} :
    graph.earlierNamesake? node = none ↔
      ∀ earlier < node, graph.name earlier ≠ graph.name node := by
  simp [earlierNamesake?, List.find?_eq_none]

theorem repeatedName?_eq (graph : ReferenceGraph count) :
    graph.repeatedName? = (List.finRange count).findSome? fun node =>
      (graph.earlierNamesake? node).map fun earlier =>
        .repeatedName (graph.name node) earlier.val := by
  rw [repeatedName?]
  congr 1
  funext node
  rw [earlierNamesake?]
  generalize List.find? _ (List.finRange count) = found
  cases found <;> rfl

theorem repeatedName?_eq_none : graph.repeatedName? = none ↔ Function.Injective graph.name := by
  simp only [repeatedName?_eq, List.findSome?_eq_none_iff, Option.map_eq_none_iff,
    earlierNamesake?_eq_none, List.mem_finRange, forall_const]
  constructor
  · intro distinct first second same
    rcases lt_trichotomy first second with before | equal | after
    · exact absurd same (distinct second first before)
    · exact equal
    · exact absurd same.symm (distinct first second after)
  · intro injective node earlier before same
    exact absurd (injective same) (ne_of_lt before)

theorem diagnoses_of_repeatedName? {problem : OrderProblem}
    (found : graph.repeatedName? = some problem) : graph.Diagnoses problem := by
  rw [repeatedName?_eq] at found
  rcases List.exists_of_findSome?_eq_some found with ⟨node, _, mapped⟩
  rcases Option.map_eq_some_iff.mp mapped with ⟨earlier, first, rfl⟩
  have both : earlier < node ∧ graph.name earlier = graph.name node := by
    simpa using List.find?_some first
  exact .repeatedName both.1 both.2

/-! ## Orders -/

/-- All nodes, each behind those to which it refers. -/
structure Orders (graph : ReferenceGraph count) (order : List (Fin count)) : Prop where
  distinct : Function.Injective graph.name
  complete : order.Perm (List.finRange count)
  led : ∀ before node after, order = before ++ node :: after →
    ∀ ref ∈ graph.references node, ∃ other ∈ before, graph.target node ref = .ok other

theorem Closed.led {later earlier : List (Fin count)} {node : Fin count}
    (closed : graph.Closed (later ++ node :: earlier)) :
    ∀ ref ∈ graph.references node, ∃ other ∈ earlier, graph.target node ref = .ok other := by
  induction later with
  | nil => exact closed.1
  | cons last rest induction => exact induction closed.2

theorem orders_of_rests {walk : Walk count} (distinct : Function.Injective graph.name)
    (rests : walk.Rests graph) (reached : ∀ node, node ∈ walk.visited) :
    graph.Orders walk.finished.reverse where
  distinct := distinct
  complete := by
    have noPath : walk.path = [] := by rw [Walk.path, rests.empty, List.map_nil]
    have nodup : walk.finished.Nodup := by simpa [noPath] using rests.valid.nodup
    apply (List.perm_ext_iff_of_nodup (List.nodup_reverse.mpr nodup)
      (List.nodup_finRange count)).mpr
    intro node
    have finished : node ∈ walk.finished := by
      simpa [noPath] using (rests.valid.visited_iff node).mp (reached node)
    simp [finished]
  led before node after split := by
    have finished : walk.finished = after.reverse ++ node :: before.reverse := by
      rw [← List.reverse_reverse walk.finished, split]
      simp
    intro ref member
    rcases (finished ▸ rests.valid.closed).led ref member with ⟨other, earlier, found⟩
    exact ⟨other, List.mem_reverse.mp earlier, found⟩

theorem orders_of_evaluationOrder {order : List (Fin count)}
    (ordered : graph.evaluationOrder = .ok order) : graph.Orders order := by
  rw [evaluationOrder] at ordered
  cases repeated : graph.repeatedName? with
  | some problem => simp [repeated] at ordered
  | none =>
      rw [repeated] at ordered
      rcases Steps.bind_eq_ok.mp ordered with ⟨walk, walked, equal⟩
      cases equal
      rcases walkAll_eq_ok rests_start walked with ⟨rests, reached, _⟩
      exact orders_of_rests (repeatedName?_eq_none.mp repeated) rests fun node =>
        reached node (List.mem_finRange node)

theorem diagnoses_of_evaluationOrder {problem : OrderProblem}
    (failed : graph.evaluationOrder = .error problem) : graph.Diagnoses problem := by
  rw [evaluationOrder] at failed
  cases repeated : graph.repeatedName? with
  | some other =>
      have equal : other = problem := by simpa [repeated] using failed
      exact diagnoses_of_repeatedName? (equal ▸ repeated)
  | none =>
      rw [repeated] at failed
      rcases Steps.bind_eq_error.mp failed with stopped | ⟨walk, _, impossible⟩
      · exact walkAll_eq_error rests_start stopped
      · cases impossible

namespace Orders

variable {order : List (Fin count)}

theorem nodup (orders : graph.Orders order) : order.Nodup :=
  orders.complete.nodup_iff.mpr (List.nodup_finRange count)

theorem mem (orders : graph.Orders order) (node : Fin count) : node ∈ order :=
  orders.complete.mem_iff.mpr (List.mem_finRange node)

theorem mem_before_of_refersTo (orders : graph.Orders order)
    {before after : List (Fin count)} {node other : Fin count}
    (split : order = before ++ node :: after) (refers : graph.RefersTo node other) :
    other ∈ before := by
  rcases refers with ⟨ref, member, named⟩
  rcases orders.led before node after split ref member with ⟨found, earlier, target⟩
  have same : graph.name found = graph.name other :=
    (name_of_indexOf? (target_eq_ok.mp target).1).trans named
  exact orders.distinct same ▸ earlier

/-- What a node refers to, directly or by way of others, stands before it. -/
theorem mem_before (orders : graph.Orders order) {node other : Fin count}
    (reaches : Relation.TransGen graph.RefersTo node other) {before after : List (Fin count)}
    (split : order = before ++ node :: after) : other ∈ before := by
  induction reaches with
  | single refers => exact orders.mem_before_of_refersTo split refers
  | @tail middle last _ refers induction =>
      rcases List.append_of_mem induction with ⟨first, second, equal⟩
      have inner : order = first ++ middle :: (second ++ node :: after) := by
        rw [split, equal]
        simp
      rw [equal]
      exact List.mem_append_left _ (orders.mem_before_of_refersTo inner refers)

theorem idxOf_lt (orders : graph.Orders order) {node other : Fin count}
    (reaches : Relation.TransGen graph.RefersTo node other) :
    order.idxOf other < order.idxOf node := by
  rcases List.append_of_mem (orders.mem node) with ⟨before, after, split⟩
  have earlier := orders.mem_before reaches split
  have apart : node ∉ before := fun member => by
    have nodup := orders.nodup
    rw [split] at nodup
    exact (List.nodup_append.mp nodup).2.2 node member node List.mem_cons_self rfl
  rw [split, List.idxOf_append_of_mem earlier, List.idxOf_append_of_notMem apart]
  have bound := List.idxOf_lt_length_of_mem earlier
  omega

end Orders

/-! ## When there is an order -/

/-- What it takes for nodes to have an order. -/
structure Orderable (graph : ReferenceGraph count) : Prop where
  distinct : Function.Injective graph.name
  declared : ∀ node, ∀ ref ∈ graph.references node, ∃ other, graph.name other = ref.node
  points : ∀ node, ∀ ref ∈ graph.references node, ref.feature.isPoint = true
  acyclic : ∀ node, ¬Relation.TransGen graph.RefersTo node node

theorem Orders.orderable {order : List (Fin count)} (orders : graph.Orders order) :
    graph.Orderable where
  distinct := orders.distinct
  declared node ref member := by
    rcases List.append_of_mem (orders.mem node) with ⟨before, after, split⟩
    rcases orders.led before node after split ref member with ⟨other, _, found⟩
    exact ⟨other, name_of_indexOf? (target_eq_ok.mp found).1⟩
  points node ref member := by
    rcases List.append_of_mem (orders.mem node) with ⟨before, after, split⟩
    rcases orders.led before node after split ref member with ⟨other, _, found⟩
    exact (target_eq_ok.mp found).2
  acyclic node reaches := Nat.lt_irrefl _ (orders.idxOf_lt reaches)

/-- Along a chain of references, the last node is reached from the first. -/
theorem transGen_of_isChain {first last : Fin count} {between : List (Fin count)}
    (linked : (first :: (between ++ [last])).IsChain graph.RefersTo) :
    Relation.TransGen graph.RefersTo first last := by
  induction between generalizing first with
  | nil => exact .single (List.isChain_pair.mp linked)
  | cons next rest induction =>
      rcases List.isChain_cons_cons.mp linked with ⟨refers, others⟩
      exact .head refers (induction others)

theorem Diagnoses.not_orderable {problem : OrderProblem} (diagnosed : graph.Diagnoses problem) :
    ¬graph.Orderable := by
  intro orderable
  cases diagnosed with
  | repeatedName earlier same => exact absurd (orderable.distinct same) (ne_of_lt earlier)
  | unknownNode member unknown =>
      rcases orderable.declared _ _ member with ⟨other, named⟩
      exact unknown other named
  | noSuchFeature member _ noPoint =>
      rw [orderable.points _ _ member] at noPoint
      cases noPoint
  | @cycle path other nodup linked onPath =>
      rcases List.append_of_mem onPath with ⟨lead, rest, rfl⟩
      have loop : (other :: (rest ++ [other])).IsChain graph.RefersTo :=
        linked.suffix ⟨lead, by simp⟩
      exact orderable.acyclic other (transGen_of_isChain loop)

theorem exists_order_iff :
    (∃ order, graph.evaluationOrder = .ok order) ↔ graph.Orderable := by
  constructor
  · rintro ⟨order, ordered⟩
    exact (orders_of_evaluationOrder ordered).orderable
  · intro orderable
    cases outcome : graph.evaluationOrder with
    | ok order => exact ⟨order, rfl⟩
    | error problem =>
        exact absurd orderable (diagnoses_of_evaluationOrder outcome).not_orderable

end ReferenceGraph

/-! ## Nodes of sketches -/

namespace SketchNode

variable {α : Type} [Scalar α]

/-- A node has an area that requires a feature of another. -/
def Needs (node other : SketchNode α) : Prop :=
  ∃ area ∈ node.areas, ∃ ref ∈ area.required, ref.node = other.name

theorem mem_references {node : SketchNode α} {ref : FeatureRef} :
    ref ∈ node.references ↔ ∃ area ∈ node.areas, ref ∈ area.required :=
  List.mem_flatMap

theorem graph_refersTo {nodes : List (SketchNode α)} :
    (graph nodes).RefersTo =
      fun index other => (nodes.get index).Needs (nodes.get other) := by
  funext index other
  apply propext
  constructor
  · rintro ⟨ref, member, named⟩
    rcases mem_references.mp member with ⟨area, listed, required⟩
    exact ⟨area, listed, ref, required, named⟩
  · rintro ⟨area, listed, ref, required, named⟩
    exact ⟨ref, mem_references.mpr ⟨area, listed, required⟩, named⟩

theorem graph_name_injective {nodes : List (SketchNode α)} :
    Function.Injective (graph nodes).name ↔ (nodes.map SketchNode.name).Nodup := by
  rw [List.Nodup, List.pairwise_map, List.pairwise_iff_getElem]
  constructor
  · intro injective first second firstBound secondBound before same
    have equal : (⟨first, firstBound⟩ : Fin nodes.length) = ⟨second, secondBound⟩ :=
      injective same
    exact absurd (Fin.mk.inj equal) (Nat.ne_of_lt before)
  · intro distinct first second same
    rcases lt_trichotomy first second with before | equal | after
    · exact absurd same (distinct first second first.isLt second.isLt before)
    · exact equal
    · exact absurd same.symm (distinct second first second.isLt first.isLt after)

/-- Nodes have an order exactly if their names are distinct, every reference leads to
a corner of a declared node, and no node needs itself, directly or by way of others.
An order has every node once, and behind each node that it needs in this way. -/
theorem evaluationOrder_exists_iff (nodes : List (SketchNode α)) :
    ((∃ order, (graph nodes).evaluationOrder = .ok order) ↔
      (nodes.map SketchNode.name).Nodup ∧
        (∀ node ∈ nodes, ∀ area ∈ node.areas, ∀ ref ∈ area.required,
          (∃ other ∈ nodes, other.name = ref.node) ∧
            ref.feature ∈ [.topLeft, .topRight, .bottomLeft, .bottomRight]) ∧
        ∀ index : Fin nodes.length,
          ¬Relation.TransGen (fun index other : Fin nodes.length =>
            (nodes.get index).Needs (nodes.get other)) index index) ∧
      ∀ order, (graph nodes).evaluationOrder = .ok order →
        order.Perm (List.finRange nodes.length) ∧
          ∀ index other : Fin nodes.length,
            Relation.TransGen (fun index other : Fin nodes.length =>
              (nodes.get index).Needs (nodes.get other)) index other →
            order.idxOf other < order.idxOf index := by
  rw [← graph_refersTo, ← graph_name_injective, ReferenceGraph.exists_order_iff]
  refine ⟨⟨fun orderable => ?_, fun ⟨distinct, led, acyclic⟩ => ?_⟩, fun order ordered => ?_⟩
  · refine ⟨orderable.distinct, fun node member area listed ref required => ?_,
      orderable.acyclic⟩
    rcases List.getElem_of_mem member with ⟨index, bound, rfl⟩
    have refers : ref ∈ (graph nodes).references ⟨index, bound⟩ :=
      mem_references.mpr ⟨area, listed, required⟩
    rcases orderable.declared _ ref refers with ⟨other, named⟩
    exact ⟨⟨nodes[other], List.getElem_mem other.isLt, named⟩,
      Feature.isPoint_iff.mp (orderable.points _ ref refers)⟩
  · have both : ∀ index : Fin nodes.length, ∀ ref ∈ (graph nodes).references index,
        (∃ other ∈ nodes, other.name = ref.node) ∧ ref.feature.isPoint = true := by
      intro index ref refers
      rcases mem_references.mp refers with ⟨area, listed, required⟩
      rcases led _ (List.getElem_mem index.isLt) area listed ref required with ⟨named, corner⟩
      exact ⟨named, Feature.isPoint_iff.mpr corner⟩
    refine ⟨distinct, fun index ref refers => ?_, fun index ref refers =>
      (both index ref refers).2, acyclic⟩
    rcases (both index ref refers).1 with ⟨other, member, named⟩
    rcases List.getElem_of_mem member with ⟨position, bound, rfl⟩
    exact ⟨⟨position, bound⟩, named⟩
  · have orders := ReferenceGraph.orders_of_evaluationOrder ordered
    exact ⟨orders.complete, fun index other reaches => orders.idxOf_lt reaches⟩

end SketchNode

end PageSketch
