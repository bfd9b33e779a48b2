import PageSketch.Proofs.EvaluationOrder
import PageSketch.Scalar.Binary

/-! # Cycles of references

If the walk fails because a node is reached again from itself, the path that is told is a path
of references between declared nodes, and its end closes a cycle. Nodes of which some reach
themselves fail in this way, unless there is something else wrong with their names or
references. -/

namespace PageSketch

namespace ReferenceGraph

variable {count : Nat} {graph : ReferenceGraph count}

/-- Repeated names are found before any reference is followed. -/
theorem injective_of_cycle {names : List String}
    (failed : graph.evaluationOrder = .error (.cycle names)) : Function.Injective graph.name := by
  rw [← repeatedName?_eq_none]
  cases repeated : graph.repeatedName? with
  | none => rfl
  | some problem =>
      rw [evaluationOrder, repeated] at failed
      cases failed
      rw [repeatedName?_eq] at repeated
      rcases List.exists_of_findSome?_eq_some repeated with ⟨node, _, mapped⟩
      rcases Option.map_eq_some_iff.mp mapped with ⟨earlier, _, impossible⟩
      cases impossible

/-- The path that is told goes along references, and only its last node occurs twice. -/
theorem exists_path_of_cycle {names : List String}
    (failed : graph.evaluationOrder = .error (.cycle names)) :
    ∃ path other, names = (path ++ [other]).map graph.name ∧
      (path ++ [other]).IsChain graph.RefersTo ∧ path.Nodup ∧ other ∈ path := by
  cases diagnoses_of_evaluationOrder failed with
  | cycle nodup linked onPath => exact ⟨_, _, rfl, linked, nodup, onPath⟩

/-- A node that reaches itself is the only thing that can be wrong. -/
theorem exists_cycle (distinct : Function.Injective graph.name)
    (declared : ∀ node, ∀ ref ∈ graph.references node, ∃ other, graph.name other = ref.node)
    (points : ∀ node, ∀ ref ∈ graph.references node, ref.feature.isPoint = true)
    {node : Fin count} (loop : Relation.TransGen graph.RefersTo node node) :
    ∃ names, graph.evaluationOrder = .error (.cycle names) := by
  cases outcome : graph.evaluationOrder with
  | ok order => exact absurd loop ((exists_order_iff.mp ⟨order, outcome⟩).acyclic node)
  | error problem =>
      cases diagnoses_of_evaluationOrder outcome with
      | repeatedName earlier same => exact absurd (distinct same) (ne_of_lt earlier)
      | unknownNode member unknown =>
          rcases declared _ _ member with ⟨other, named⟩
          exact absurd named (unknown other)
      | noSuchFeature member named noPoint =>
          rw [points _ _ member] at noPoint
          cases noPoint
      | cycle => exact ⟨_, rfl⟩

end ReferenceGraph

namespace SketchNode

section

variable {α : Type} [Scalar α] {nodes : List (SketchNode α)}

/-- Every area of every node depends on corners of declared nodes only. -/
def Led (nodes : List (SketchNode α)) : Prop :=
  ∀ node ∈ nodes, ∀ area ∈ node.areas, ∀ ref ∈ area.required,
    (∃ other ∈ nodes, other.name = ref.node) ∧
      ref.feature ∈ [.topLeft, .topRight, .bottomLeft, .bottomRight]

theorem Led.of_references (led : Led nodes) {index : Fin nodes.length} {ref : FeatureRef}
    (member : ref ∈ (graph nodes).references index) :
    (∃ other, (graph nodes).name other = ref.node) ∧ ref.feature.isPoint = true := by
  rcases mem_references.mp member with ⟨area, listed, required⟩
  rcases led _ (List.getElem_mem index.isLt) area listed ref required with
    ⟨⟨other, declared, named⟩, corner⟩
  rcases List.getElem_of_mem declared with ⟨position, bound, rfl⟩
  exact ⟨⟨⟨position, bound⟩, named⟩, Feature.isPoint_iff.mpr corner⟩

/-- If a cycle is told, then it is a path of declared nodes of which each needs the next, all
but the last with different names, and the last is one of those before it. A cycle is told
whenever names are distinct, all references lead to corners of declared nodes, and some node
needs itself, directly or by way of others. -/
theorem evaluationOrder_tells_cycles (nodes : List (SketchNode α)) :
    (∀ names, (graph nodes).evaluationOrder = .error (.cycle names) →
      ∃ (path : List (SketchNode α)) (again : SketchNode α),
        names = (path ++ [again]).map SketchNode.name ∧ path ⊆ nodes ∧
          (path ++ [again]).IsChain Needs ∧ (path.map SketchNode.name).Nodup ∧ again ∈ path) ∧
      ((nodes.map SketchNode.name).Nodup → Led nodes →
        (∃ index : Fin nodes.length, Relation.TransGen (fun index other : Fin nodes.length =>
          (nodes.get index).Needs (nodes.get other)) index index) →
        ∃ names, (graph nodes).evaluationOrder = .error (.cycle names)) := by
  rw [← graph_refersTo, ← graph_name_injective]
  refine ⟨fun names failed => ?_, fun distinct led ⟨index, loop⟩ => ?_⟩
  · rcases ReferenceGraph.exists_path_of_cycle failed with
      ⟨path, other, rfl, linked, nodup, onPath⟩
    have injective := ReferenceGraph.injective_of_cycle failed
    refine ⟨path.map nodes.get, nodes.get other, ?_, ?_, ?_, ?_, List.mem_map_of_mem onPath⟩
    · rw [List.map_append, List.map_append, List.map_map]
      rfl
    · intro node member
      rcases List.mem_map.mp member with ⟨index, _, rfl⟩
      exact List.get_mem nodes index
    · have chain : ((path ++ [other]).map nodes.get).IsChain Needs := by
        rw [List.isChain_map, ← graph_refersTo]
        exact linked
      rwa [List.map_append] at chain
    · rw [List.map_map]
      exact nodup.map injective
  · exact ReferenceGraph.exists_cycle distinct (fun _ _ member => (led.of_references member).1)
      (fun _ _ member => (led.of_references member).2) loop

end

/-! ## A loop with a lead -/

namespace Loop

/-- A square next to another node. -/
def beside (name other : String) : SketchNode Float :=
  let corner : Source Float := .corner .topLeft (.relative ⟨other, .topRight⟩ .zero)
  { name
    areas := [⟨⟨corner, none⟩, ⟨corner, some .inch⟩, ⟨corner, some .inch⟩, ⟨corner, none⟩⟩]
    locator := ⟨.line, (Pattern.read? "x").get (by decide +kernel), false⟩
    tags := [] }

/-- The first node leads to two that need each other. -/
def nodes : List (SketchNode Float) :=
  [beside "note" "label", beside "label" "amount", beside "amount" "label"]

theorem led_nodes : Led nodes := by
  unfold Led
  decide +kernel

end Loop

theorem evaluationOrder_tells_cycles_loop :
    (Loop.nodes.map SketchNode.name).Nodup ∧ Led Loop.nodes ∧
      ∃ names, (graph Loop.nodes).evaluationOrder = .error (.cycle names) ∧
        ∃ (path : List (SketchNode Float)) (again : SketchNode Float),
          names = (path ++ [again]).map SketchNode.name ∧ path ⊆ Loop.nodes ∧
            (path ++ [again]).IsChain Needs ∧ (path.map SketchNode.name).Nodup ∧
            again ∈ path := by
  have distinct : (Loop.nodes.map SketchNode.name).Nodup := by decide
  let label : Fin Loop.nodes.length := ⟨1, by decide⟩
  let amount : Fin Loop.nodes.length := ⟨2, by decide⟩
  have needs : (Loop.nodes.get label).Needs (Loop.nodes.get amount) :=
    ⟨_, List.mem_singleton_self _, ⟨"amount", .topRight⟩, by decide +kernel, rfl⟩
  have back : (Loop.nodes.get amount).Needs (Loop.nodes.get label) :=
    ⟨_, List.mem_singleton_self _, ⟨"label", .topRight⟩, by decide +kernel, rfl⟩
  have loop : Relation.TransGen (fun index other : Fin Loop.nodes.length =>
      (Loop.nodes.get index).Needs (Loop.nodes.get other)) label label :=
    .tail (.single needs) back
  rcases evaluationOrder_tells_cycles Loop.nodes with ⟨real, told⟩
  rcases told distinct Loop.led_nodes ⟨_, loop⟩ with ⟨names, failed⟩
  exact ⟨distinct, Loop.led_nodes, names, failed, real names failed⟩

end SketchNode

end PageSketch
