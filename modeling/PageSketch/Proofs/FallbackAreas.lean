import PageSketch.Proofs.ReachedNodes

/-! # Fallback areas

Areas that are added behind those of a node count only if nothing is found in the others. A
node that is found stays as it is then, and so do all nodes that refer to it. -/

namespace PageSketch

/-! ## More areas -/

section

variable {α : Type}

/-- The node with more areas behind those that it has. -/
def NodeSpec.withFallbacks (spec : NodeSpec α) (more : List (AreaSpec α)) : NodeSpec α :=
  { spec with searchAreas := spec.searchAreas ++ more }

/-- The sketch in which a node has more areas behind those that it has. -/
def SketchSpec.withFallbacks (spec : SketchSpec α) (name : String) (more : List (AreaSpec α)) :
    SketchSpec α :=
  { spec with
    nodes := spec.nodes.map fun node =>
      if node.name = name then node.withFallbacks more else node }

def SketchNode.withAreas (node : SketchNode α) (more : List (AnchoredRect α)) : SketchNode α :=
  { node with areas := node.areas ++ more }

/-- Another result for the same node begins with the same areas, and it is the same in what
was found, if something was. -/
structure NodeResult.KeptBy (result other : NodeResult α) : Prop where
  name : other.name = result.name
  areas : result.areas <+: other.areas
  located : result.isValid = true → other.located = result.located

theorem NodeResult.KeptBy.refl (result : NodeResult α) : result.KeptBy result where
  name := rfl
  areas := List.prefix_refl _
  located _ := rfl

end

section

variable {α : Type} [Scalar α] {written : NodeSpec α} {more : List (AreaSpec α)}

theorem NodeSpec.areas_withFallbacks (written : NodeSpec α) (more : List (AreaSpec α)) :
    ∃ added, (written.withFallbacks more).areas = written.areas ++ added := by
  rw [areas, areas, withFallbacks, List.zipIdx_append, List.map_append]
  exact ⟨_, rfl⟩

theorem NodeSpec.compile_withFallbacks {node node' : SketchNode α}
    (compiled : written.compile = .ok node)
    (compiled' : (written.withFallbacks more).compile = .ok node') :
    ∃ added, node' = node.withAreas added := by
  rcases compile_of_failures (exists_compile_iff.mp ⟨node, compiled⟩) with
    ⟨locator, matcher, meant⟩
  rcases compile_of_failures (exists_compile_iff.mp ⟨node', compiled'⟩) with
    ⟨locator', matcher', meant'⟩
  rcases areas_withFallbacks written more with ⟨added, areas⟩
  have same : locator' = locator := Except.ok.inj (matcher'.symm.trans matcher)
  cases meant.symm.trans compiled
  cases meant'.symm.trans compiled'
  rw [areas, List.filterMap_append, same]
  exact ⟨added.filterMap Except.toOption, rfl⟩

theorem NodeResult.KeptBy.featurePosition {result other : NodeResult α}
    (kept : result.KeptBy other) (found : result.isValid = true) (feature : Feature) :
    result.featurePosition feature = other.featurePosition feature := by
  simp only [NodeResult.featurePosition, NodeResult.bounds?, kept.name, kept.located found]

/-- If the lookups agree on what the node needs without the further areas, then a search with
these areas begins as a search without them does. -/
theorem SketchNode.kept_of_search [SpatialIndex α] {node : SketchNode α}
    {added : List (AnchoredRect α)}
    {page : Page α} {first second : FeatureLookup α} {result other : NodeResult α}
    (agree : ∀ ref ∈ node.references, first ref = second ref)
    (searched : node.search page first = .ok result)
    (searched' : (node.withAreas added).search page second = .ok other) :
    result.KeptBy other := by
  rw [search_congr agree] at searched
  rcases search_eq_ok.mp searched with ⟨owner, resolved, located⟩
  rcases search_eq_ok.mp searched' with ⟨owner', resolved', located'⟩
  have areas := (resolveAreas_eq_ok resolved).1
  have areas' := (resolveAreas_eq_ok resolved').1
  rw [withAreas, List.filterMap_append, ← areas] at areas'
  refine ⟨?_, ⟨_, areas'.symm⟩, fun found => ?_⟩
  · rw [NodeResult.name, NodeResult.name, owner, owner', withAreas]
  · rw [NodeResult.isValid, located] at found
    rcases Option.isSome_iff_exists.mp found with ⟨here, first⟩
    rw [located', areas', withAreas, List.findSome?_append, located, first, Option.some_or]

end

namespace Sketch

variable {α : Type} [Scalar α] {spec : SketchSpec α} {sketch sketch' : Sketch α}
  {page : Page α} {report report' : PageReport α} {name : String} {more : List (AreaSpec α)}

/-! ## One node -/

theorem exists_counterpart (compiled : spec.compile = .ok sketch)
    (compiled' : (spec.withFallbacks name more).compile = .ok sketch')
    {node : SketchNode α} (member : node ∈ sketch.nodes) :
    ∃ added, node.withAreas added ∈ sketch'.nodes ∧ (node.name ≠ name → added = []) := by
  rcases (SketchSpec.mem_nodes compiled).mp member with ⟨written, listed, meant⟩
  have named := NodeSpec.name_of_compile meant
  have declared := List.mem_map_of_mem
    (f := fun node : NodeSpec α => if node.name = name then node.withFallbacks more else node)
    listed
  by_cases extended : written.name = name
  · simp only [extended, if_true] at declared
    rcases SketchSpec.exists_node compiled' declared with ⟨node', member', meant'⟩
    rcases NodeSpec.compile_withFallbacks meant meant' with ⟨added, rfl⟩
    exact ⟨added, member', fun other => absurd (named.trans extended) other⟩
  · simp only [extended, if_false] at declared
    refine ⟨[], ?_, fun _ => rfl⟩
    rw [SketchNode.withAreas, List.append_nil]
    exact (SketchSpec.mem_nodes compiled').mpr ⟨written, declared, meant⟩

omit [Scalar α] in
theorem mem_of_withFallbacks {written : NodeSpec α}
    (declared : written ∈ (spec.withFallbacks name more).nodes)
    (different : written.name ≠ name) : written ∈ spec.nodes := by
  rcases List.mem_map.mp declared with ⟨original, listed, equal⟩
  by_cases extended : original.name = name
  · rw [if_pos extended] at equal
    exact absurd (equal ▸ extended) different
  · rw [if_neg extended] at equal
    exact equal ▸ listed

/-- A node refers to nodes before it only. -/
theorem lookup_eq_of_before (executable : sketch.Executable) {before after : List (SketchNode α)}
    {node : SketchNode α} (split : sketch.orderedNodes = before ++ node :: after)
    (known : ∀ other ∈ before, ∀ feature,
      report.lookup ⟨other.name, feature⟩ = report'.lookup ⟨other.name, feature⟩) :
    ∀ ref ∈ node.references, report.lookup ref = report'.lookup ref := by
  rintro ⟨target, corner⟩ needed
  rcases (executable.led before node after split _ needed).1 with ⟨owner, present, rfl⟩
  exact known owner present corner

variable [SpatialIndex α]

/-- If the reports agree on what a node refers to, then its result is kept. -/
theorem exists_kept (compiled : spec.compile = .ok sketch)
    (compiled' : (spec.withFallbacks name more).compile = .ok sketch')
    (analyzed : sketch.analyzePage page = .ok report)
    (analyzed' : sketch'.analyzePage page = .ok report')
    {node : SketchNode α} (member : node ∈ sketch.nodes)
    (agree : ∀ ref ∈ node.references, report.lookup ref = report'.lookup ref) :
    ∃ result other, report.find? node.name = some result ∧
      report'.find? node.name = some other ∧ result.KeptBy other ∧
      (node.name ≠ name → other = result) := by
  rcases exists_result (executable_of_compile compiled) analyzed member with
    ⟨result, found, searched⟩
  rcases exists_counterpart compiled compiled' member with ⟨added, member', unchanged⟩
  rcases exists_result (executable_of_compile compiled') analyzed' member' with
    ⟨other, found', searched'⟩
  refine ⟨result, other, found, found', SketchNode.kept_of_search agree searched searched',
    fun different => ?_⟩
  rw [unchanged different, SketchNode.withAreas, List.append_nil,
    ← SketchNode.search_congr agree, searched] at searched'
  exact (Except.ok.inj searched').symm

/-! ## All nodes -/

/-- The node with a name is found, as far as a report tells. -/
def Finds (report : PageReport α) (name : String) : Prop :=
  ∃ result, report.find? name = some result ∧ result.isValid = true

/-- Going along the order in which the sketch evaluates its nodes, lookups agree on one node
after the other: on the one with more areas because it is found, and on all others because
their results are the same. -/
theorem lookup_eq_along (compiled : spec.compile = .ok sketch)
    (compiled' : (spec.withFallbacks name more).compile = .ok sketch')
    (analyzed : sketch.analyzePage page = .ok report)
    (analyzed' : sketch'.analyzePage page = .ok report')
    (before : List (SketchNode α)) (first : before <+: sketch.orderedNodes)
    (found : ∀ node ∈ before, node.name = name → Finds report name) :
    ∀ node ∈ before, ∀ feature,
      report.lookup ⟨node.name, feature⟩ = report'.lookup ⟨node.name, feature⟩ := by
  have executable := executable_of_compile compiled
  induction before using List.reverseRecOn with
  | nil => exact fun _ none => nomatch none
  | append_singleton before node induction =>
      have earlier := induction ((List.prefix_append before [node]).trans first)
        fun other member => found other (List.mem_append_left _ member)
      intro other member feature
      rcases List.mem_append.mp member with present | here
      · exact earlier other present feature
      · cases List.mem_singleton.mp here
        rcases first with ⟨after, split⟩
        rw [List.append_assoc, List.singleton_append] at split
        have declared : node ∈ sketch.nodes := by
          rw [← executable.complete.mem_iff, ← split]
          simp
        rcases exists_kept compiled compiled' analyzed analyzed' declared
          (lookup_eq_of_before executable split.symm earlier) with
          ⟨result, other, entered, entered', keeps, same⟩
        rw [PageReport.lookup_of_find? entered, PageReport.lookup_of_find? entered']
        by_cases extended : node.name = name
        · rcases found node member extended with ⟨_, entry, valid⟩
          rw [← extended, entered] at entry
          cases entry
          exact keeps.featurePosition valid feature
        · rw [same extended]

/-- The node with more areas is evaluated after nodes that do not depend on it, so that its
result is kept whether it is found or not. -/
theorem exists_kept_of_name (compiled : spec.compile = .ok sketch)
    (compiled' : (spec.withFallbacks name more).compile = .ok sketch')
    (analyzed : sketch.analyzePage page = .ok report)
    (analyzed' : sketch'.analyzePage page = .ok report')
    {node : SketchNode α} (member : node ∈ sketch.nodes) (named : node.name = name) :
    ∃ result other, report.find? name = some result ∧ report'.find? name = some other ∧
      result.KeptBy other := by
  have executable := executable_of_compile compiled
  rcases List.append_of_mem (executable.complete.mem_iff.mpr member) with ⟨before, after, split⟩
  have distinct := executable.distinct
  rw [split, List.map_append, List.map_cons, List.nodup_append] at distinct
  have known := lookup_eq_along compiled compiled' analyzed analyzed' before
    (split ▸ List.prefix_append _ _) fun other earlier same =>
      absurd (same.trans named.symm) (distinct.2.2 _ (List.mem_map_of_mem earlier) _ (by simp))
  rcases exists_kept compiled compiled' analyzed analyzed' member
    (lookup_eq_of_before executable split known) with ⟨result, other, entered, entered', keeps, _⟩
  exact ⟨result, other, named ▸ entered, named ▸ entered', keeps⟩

/-- If the node with more areas is found without them, all other nodes stay as they are. -/
theorem exists_same_of_finds (compiled : spec.compile = .ok sketch)
    (compiled' : (spec.withFallbacks name more).compile = .ok sketch')
    (analyzed : sketch.analyzePage page = .ok report)
    (analyzed' : sketch'.analyzePage page = .ok report') (found : Finds report name)
    {node : SketchNode α} (member : node ∈ sketch.nodes) (different : node.name ≠ name) :
    ∃ result, report.find? node.name = some result ∧ report'.find? node.name = some result := by
  have executable := executable_of_compile compiled
  rcases List.append_of_mem (executable.complete.mem_iff.mpr member) with ⟨before, after, split⟩
  have known := lookup_eq_along compiled compiled' analyzed analyzed' before
    (split ▸ List.prefix_append _ _) fun _ _ _ => found
  rcases exists_kept compiled compiled' analyzed analyzed' member
    (lookup_eq_of_before executable split known) with
    ⟨result, other, entered, entered', _, same⟩
  exact ⟨result, entered, same different ▸ entered'⟩

/-- Nodes from which the node with more areas is not reached stay as they are. -/
theorem exists_same_of_not_reaches (compiled : spec.compile = .ok sketch)
    (compiled' : (spec.withFallbacks name more).compile = .ok sketch')
    (analyzed : sketch.analyzePage page = .ok report)
    (analyzed' : sketch'.analyzePage page = .ok report')
    {node : SketchNode α} (member : node ∈ sketch.nodes)
    (apart : ¬sketch'.Reaches node.name name) :
    ∃ result, report.find? node.name = some result ∧ report'.find? node.name = some result := by
  have different : node.name ≠ name := fun same => apart (same ▸ .refl)
  rcases exists_counterpart compiled compiled' member with ⟨added, member', unchanged⟩
  rw [unchanged different, SketchNode.withAreas, List.append_nil] at member'
  have ordered := (executable_of_compile compiled').complete.mem_iff.mpr member'
  have same := find?_eq_of_reaches compiled' compiled analyzed' analyzed
    (fun written declared reached =>
      mem_of_withFallbacks declared fun here => apart (here ▸ reached))
    _ (List.prefix_refl _) node ordered .refl
  rcases exists_result (executable_of_compile compiled) analyzed member with ⟨result, found, _⟩
  exact ⟨result, found, same.trans found⟩

/-- A node that is found is found in the same way with more areas behind its own, and nothing
changes for any other node then. If it was not found, nothing changes for nodes that do not
depend on it. -/
theorem fallback_areas_keep_results (compiled : spec.compile = .ok sketch)
    (compiled' : (spec.withFallbacks name more).compile = .ok sketch')
    (declared : ∃ written ∈ spec.nodes, written.name = name)
    (analyzed : sketch.analyzePage page = .ok report)
    (analyzed' : sketch'.analyzePage page = .ok report') :
    ∃ result other, report.find? name = some result ∧ report'.find? name = some other ∧
      result.areas <+: other.areas ∧
      (result.isValid = true → other.located = result.located) ∧
      ∀ written ∈ spec.nodes, written.name ≠ name →
        result.isValid = true ∨ ¬sketch'.Reaches written.name name →
          ∃ same, report.find? written.name = some same ∧
            report'.find? written.name = some same := by
  rcases declared with ⟨extended, listed, rfl⟩
  rcases SketchSpec.exists_node compiled listed with ⟨owner, member, meant⟩
  rcases exists_kept_of_name compiled compiled' analyzed analyzed' member
    (NodeSpec.name_of_compile meant) with ⟨result, other, found, found', kept⟩
  refine ⟨result, other, found, found', kept.areas, kept.located, ?_⟩
  intro written listed different condition
  rcases SketchSpec.exists_node compiled listed with ⟨node, member, meant⟩
  rw [← NodeSpec.name_of_compile meant] at different condition ⊢
  rcases condition with valid | apart
  · exact exists_same_of_finds compiled compiled' analyzed analyzed' ⟨result, found, valid⟩
      member different
  · exact exists_same_of_not_reaches compiled compiled' analyzed analyzed' member apart

end Sketch

/-! ## The invoice with a fallback for its label -/

namespace Invoice

/-- If the label is not near the corner of the page, it may be below the note. -/
def belowNote : AreaSpec Float where
  topLeft := some (.relative "note" .bottomLeft none)
  width := some (.ofUnit .pt 50)
  height := some (.ofUnit .pt 20)

def labelWithFallback : SketchNode Float :=
  let corner : Source Float := .corner .topLeft (.relative ⟨"note", .bottomLeft⟩ .zero)
  label.withAreas [⟨⟨corner, none⟩, ⟨corner, some (points 50)⟩, ⟨corner, some (points 20)⟩,
    ⟨corner, none⟩⟩]

/-- The note comes first now, as the label depends on it. -/
def fallbackSketch : Sketch Float where
  tags := []
  nodes := [amount, labelWithFallback, note]
  order := [⟨2, by decide⟩, ⟨1, by decide⟩, ⟨0, by decide⟩]

theorem compile_labelWithFallback :
    (labelSpec.withFallbacks [belowNote]).compile = .ok labelWithFallback := by
  rw [NodeSpec.compile, NodeSpec.failures, NodeSpec.readTags_of_nil rfl]
  rfl

theorem compile_withFallback :
    (notedSpec.withFallbacks "label" [belowNote]).compile = .ok fallbackSketch := by
  have written : notedSpec.withFallbacks "label" [belowNote] =
      ⟨[], [amountSpec, labelSpec.withFallbacks [belowNote], noteSpec]⟩ := rfl
  have nodes : (SketchSpec.mk [] [amountSpec, labelSpec.withFallbacks [belowNote],
      noteSpec]).compiledNodes = [amount, labelWithFallback, note].map .ok := by
    simp only [SketchSpec.compiledNodes, List.map, compile_amountSpec,
      compile_labelWithFallback, compile_noteSpec]
    rfl
  have order : (notedGraph labelWithFallback.references).evaluationOrder = .ok [2, 1, 0] := by
    change (notedGraph [⟨"note", .bottomLeft⟩]).evaluationOrder = .ok [2, 1, 0]
    cbv
  rw [written]
  exact SketchSpec.compile_of_nodes rfl nodes (notedGraph_eq rfl) order

end Invoice

namespace Sketch

theorem fallback_areas_keep_results_note :
    ∃ report report' result other,
      Invoice.notedSketch.analyzePage (Invoice.page 20) = .ok report ∧
      Invoice.fallbackSketch.analyzePage (Invoice.page 20) = .ok report' ∧
      report.find? "label" = some result ∧ report'.find? "label" = some other ∧
      result.isValid = true ∧ result.areas <+: other.areas ∧ other.located = result.located ∧
      ∃ same, report.find? "amount" = some same ∧ report'.find? "amount" = some same := by
  have valid : (Invoice.notedSketch.analyzePage (Invoice.page 20)).toOption.bind
      (fun report => (report.find? "label").map NodeResult.isValid) = some true := by
    decide +kernel
  have isOk : (Invoice.fallbackSketch.analyzePage (Invoice.page 20)).isOk = true := by
    decide +kernel
  cases analyzed : Invoice.notedSketch.analyzePage (Invoice.page 20) with
  | error failure =>
      rw [analyzed] at valid
      cases valid
  | ok report =>
      cases analyzed' : Invoice.fallbackSketch.analyzePage (Invoice.page 20) with
      | error failure =>
          rw [analyzed'] at isOk
          cases isOk
      | ok report' =>
          have label : ∃ written ∈ Invoice.notedSpec.nodes, written.name = "label" :=
            ⟨Invoice.labelSpec, by simp [Invoice.notedSpec], rfl⟩
          have amount : Invoice.amountSpec ∈ Invoice.notedSpec.nodes := by
            simp [Invoice.notedSpec]
          rcases fallback_areas_keep_results Invoice.compile_notedSpec
            Invoice.compile_withFallback label analyzed analyzed' with
            ⟨result, other, found, found', areas, located, others⟩
          have valid : result.isValid = true := by
            rw [analyzed] at valid
            simpa [Except.toOption, found] using valid
          exact ⟨report, report', result, other, rfl, rfl, found, found', valid, areas,
            located valid, others Invoice.amountSpec amount (by decide) (.inl valid)⟩

end Sketch

end PageSketch
