import PageSketch.Proofs.PartialReports

/-! # The analysis of pages

A sketch that has been compiled evaluates each node after all nodes on which its areas
depend. What is looked up is therefore always in the partial report and stays as it is, and
the results are those that each node has against the complete report. -/

namespace PageSketch

namespace Sketch

variable {α : Type} [Scalar α] {spec : SketchSpec α} {sketch : Sketch α}

/-! ## Compiled sketches -/

/-- The order has every node once, and the areas of a node only depend on corners of nodes
before it. -/
structure Executable (sketch : Sketch α) : Prop where
  complete : sketch.orderedNodes.Perm sketch.nodes
  distinct : (sketch.orderedNodes.map SketchNode.name).Nodup
  led : ∀ before node after, sketch.orderedNodes = before ++ node :: after →
    ∀ ref ∈ node.references,
      (∃ other ∈ before, other.name = ref.node) ∧ ref.feature.isPoint = true

theorem executable_of_orders
    (orders : (SketchNode.graph sketch.nodes).Orders sketch.order) : sketch.Executable where
  complete := by
    have complete := orders.complete.map fun index => sketch.nodes[index]
    exact complete.trans (List.Perm.of_eq (List.map_getElem_finRange sketch.nodes))
  distinct := by
    rw [orderedNodes, List.map_map]
    exact orders.nodup.map orders.distinct
  led before node after split ref member := by
    rcases List.map_eq_append_iff.mp split with ⟨first, rest, equal, rfl, others⟩
    rcases List.map_eq_cons_iff.mp others with ⟨index, last, rfl, rfl, rfl⟩
    rcases orders.led first index last equal ref member with ⟨other, earlier, found⟩
    rcases ReferenceGraph.target_eq_ok.mp found with ⟨here, corner⟩
    exact ⟨⟨sketch.nodes[other], List.mem_map.mpr ⟨other, earlier, rfl⟩,
      ReferenceGraph.name_of_indexOf? here⟩, corner⟩

theorem executable_of_compile (compiled : spec.compile = .ok sketch) : sketch.Executable := by
  rcases Steps.bind_eq_ok.mp compiled with ⟨_, _, built⟩
  rcases Steps.bind_eq_ok.mp built with ⟨tags, _, ordering⟩
  rcases Steps.bind_eq_ok.mp ordering with ⟨order, ordered, equal⟩
  cases equal
  apply executable_of_orders
  exact ReferenceGraph.orders_of_evaluationOrder (Steps.mapError_eq_ok.mp ordered)

/-! ## Evaluation of one node -/

variable [SpatialIndex α] {page : Page α} {report early : PageReport α}

/-- A node is evaluated when the report is this far. -/
def Evaluates (sketch : Sketch α) (page : Page α) (early : PageReport α)
    (node : SketchNode α) : Prop :=
  ∃ before after, sketch.orderedNodes = before ++ node :: after ∧ Reports page before early

/-- A node that is evaluated finds in the report all that its areas need. -/
theorem Evaluates.answers (executable : sketch.Executable) {node : SketchNode α}
    (evaluates : sketch.Evaluates page early node) :
    ∀ ref ∈ node.references, early.Answers ref := by
  rcases evaluates with ⟨before, after, split, reports⟩
  intro ref member
  rcases executable.led before node after split ref member with ⟨⟨other, earlier, named⟩, corner⟩
  have distinct := executable.distinct
  rw [split] at distinct
  rw [← reports.nodes_eq (distinct_of_append distinct)] at earlier
  rcases List.mem_map.mp earlier with ⟨result, listed, rfl⟩
  exact ⟨named ▸ PageReport.exists_find? listed, corner⟩

theorem evaluates_of_analyzePage_error {failure : Failure}
    (failed : sketch.analyzePage page = .error failure) :
    ∃ early node inner, sketch.Evaluates page early node ∧
      node.search page early.lookup = .error inner ∧
      failure = .within ("search for node " ++ Text.quoted node.name ++ " on page "
        ++ toString page.number.val) inner := by
  rcases Steps.foldlM_eq_error failed with ⟨before, node, after, early, split, run, stopped⟩
  rcases analyzeNode_eq_error.mp stopped with ⟨inner, searched, equal⟩
  exact ⟨early, node, inner, ⟨before, after, split, run⟩, searched, equal⟩

/-- Every result is that of an evaluation. -/
theorem evaluates_of_mem (executable : sketch.Executable)
    (analyzed : sketch.analyzePage page = .ok report) {result : NodeResult α}
    (member : result ∈ report.results) :
    ∃ early, sketch.Evaluates page early result.node ∧ early.results <+: report.results ∧
      result.node.search page early.lookup = .ok result := by
  have listed : report.results.map NodeResult.node = sketch.orderedNodes :=
    Reports.nodes_eq executable.distinct analyzed
  rcases List.append_of_mem member with ⟨first, last, equal⟩
  have split : sketch.orderedNodes =
      first.map NodeResult.node ++ result.node :: last.map NodeResult.node := by
    rw [← listed, equal, List.map_append, List.map_cons]
  have distinct := executable.distinct
  rw [split] at distinct
  have reports : Reports page sketch.orderedNodes report := analyzed
  rw [split] at reports
  rcases reports.search distinct with ⟨early, found, later, before, same, grown, searched⟩
  -- Both splits of the results have the same nodes in front, so they are the same split.
  have lengths : first.length = early.results.length := by
    rw [← List.length_map NodeResult.node, ← same, List.length_map]
  have parts := List.append_inj (equal.symm.trans grown) lengths
  have here : result = found := (List.cons.inj parts.2).1
  refine ⟨early, ⟨_, _, split, before⟩, ⟨_, grown.symm⟩, ?_⟩
  rw [searched, here]

/-! ## Complete reports -/

/-- What was found out about a node is what there is to find out with the complete report. -/
theorem search_of_mem (executable : sketch.Executable)
    (analyzed : sketch.analyzePage page = .ok report) {result : NodeResult α}
    (member : result ∈ report.results) :
    result.node.search page report.lookup = .ok result ∧
      ∀ ref ∈ result.node.references, report.Answers ref := by
  rcases evaluates_of_mem executable analyzed member with ⟨early, evaluates, grown, searched⟩
  have answered := evaluates.answers executable
  have agree : ∀ ref ∈ result.node.references, early.lookup ref = report.lookup ref :=
    fun ref needed => PageReport.lookup_of_isPrefix grown (answered ref needed)
  rw [← SketchNode.search_congr agree]
  exact ⟨searched, fun ref needed => (answered ref needed).of_isPrefix grown⟩

end Sketch

/-- What a result tells is true of a page and of a report on it. -/
structure NodeResult.Holds {α : Type} [Scalar α] (result : NodeResult α) (page : Page α)
    (report : PageReport α) : Prop where
  /-- The areas are those that can be resolved with the report, in order. -/
  areas : result.areas =
    result.node.areas.filterMap fun area => (area.resolve report.lookup).toOption
  /-- An area is missing exactly if it requires a feature of a node without a place. -/
  missing : ∀ area ∈ result.node.areas,
    (∃ failure, area.resolve report.lookup = .error failure) ↔
      ∃ ref ∈ area.required, report.Lacks ref
  /-- The node is found exactly if some element of the page suits in one of the areas. -/
  valid : result.isValid = true ↔
    ∃ area ∈ result.areas, ∃ element ∈ page.elements, result.node.locator.Suits area element
  /-- What is found comes from the first area in which some element suits. -/
  found : ∀ located, result.located = some located →
    ∃ before area after, result.areas = before ++ area :: after ∧
      (∀ earlier ∈ before, ∀ element ∈ page.elements,
        ¬result.node.locator.Suits earlier element) ∧
      ∃ element ∈ page.elements, result.node.locator.Suits area element ∧
        located.text = element.text ∧
        PatternMatch.evaluate? result.node.locator.pattern element.text = some located.found ∧
        result.node.locator.Places element located.found located.bounds

namespace Sketch

variable {α : Type} [Scalar α] [SpatialIndex α] {spec : SketchSpec α} {sketch : Sketch α}
  {page : Page α} {report : PageReport α}

/-- The report has a result for each node, and every result holds with what the other
results tell. -/
structure Consistent (sketch : Sketch α) (page : Page α) (report : PageReport α) : Prop where
  order : report.results.map NodeResult.node = sketch.orderedNodes
  complete : sketch.orderedNodes.Perm sketch.nodes
  distinct : (report.results.map NodeResult.name).Nodup
  /-- What has been entered into the report remains as it was. -/
  kept : ∀ before after, sketch.orderedNodes = before ++ after →
    ∃ early, Reports page before early ∧ early.results.map NodeResult.node = before ∧
      early.results <+: report.results
  holds : ∀ result ∈ report.results, result.Holds page report

theorem holds_of_search [Scalar.Ordered α] {result : NodeResult α}
    (searched : result.node.search page report.lookup = .ok result)
    (answered : ∀ ref ∈ result.node.references, report.Answers ref) :
    result.Holds page report := by
  rcases SketchNode.search_eq_ok.mp searched with ⟨_, resolved, located⟩
  rcases SketchNode.resolveAreas_eq_ok resolved with ⟨areas, unknown⟩
  refine ⟨areas, fun area member => ⟨?_, ?_⟩, ?_, fun found here => ?_⟩
  · rintro ⟨failure, failed⟩
    apply PageReport.lacks_of_resolve _ failed (unknown area member failure failed)
    exact fun ref required =>
      answered ref (SketchNode.mem_references.mpr ⟨area, member, required⟩)
  · rintro ⟨ref, required, lacking⟩
    rcases PageReport.resolve_of_lacks required lacking with ⟨failure, failed, _⟩
    exact ⟨failure, failed⟩
  · rw [NodeResult.isValid, located, List.findSome?_isSome_iff]
    simp only [TextLocator.isSome_locate?]
  · rw [located] at here
    rcases List.findSome?_eq_some_iff.mp here with ⟨before, area, after, split, hit, none⟩
    rcases TextLocator.exists_of_locate? hit with ⟨element, member, suits, evaluated, placed⟩
    refine ⟨before, area, after, split, fun earlier listed element present suits => ?_, ?_⟩
    · have some := TextLocator.isSome_locate?.mpr ⟨element, present, suits⟩
      rw [none earlier listed] at some
      cases some
    · exact ⟨element, member, suits, PatternMatch.text_of_evaluate? evaluated, evaluated, placed⟩

/-- The report on a page is complete, and its results hold with it as the lookup, although
each of them was found with a part of it only. -/
theorem consistent_of_analyzePage [Scalar.Ordered α] (compiled : spec.compile = .ok sketch)
    (analyzed : sketch.analyzePage page = .ok report) : sketch.Consistent page report where
  order := Reports.nodes_eq (executable_of_compile compiled).distinct analyzed
  complete := (executable_of_compile compiled).complete
  distinct := by
    have distinct := (executable_of_compile compiled).distinct
    rw [← Reports.nodes_eq distinct analyzed, List.map_map] at distinct
    exact distinct
  kept before after split := by
    have reports : Reports page sketch.orderedNodes report := analyzed
    have distinct := (executable_of_compile compiled).distinct
    rw [split] at reports distinct
    rcases reports.split distinct with ⟨early, first, listed, grown, _⟩
    exact ⟨early, first, listed, grown⟩
  holds result member := by
    rcases search_of_mem (executable_of_compile compiled) analyzed member with
      ⟨searched, answered⟩
    exact holds_of_search searched answered

end Sketch

/-! ## An invoice -/

theorem Tags.check_nil : check [] = .ok [] := by cbv

theorem NodeSpec.readTags_of_nil {α : Type} {spec : NodeSpec α} (untagged : spec.tags = []) :
    spec.readTags = .ok [] := by
  rw [readTags, untagged, Tags.check_nil]
  rfl

theorem SketchSpec.readTags_of_nil {α : Type} {spec : SketchSpec α} (untagged : spec.tags = []) :
    spec.readTags = .ok [] := by
  rw [readTags, untagged, Tags.check_nil]
  rfl

theorem SketchSpec.compile_of_nodes {α : Type} [Scalar α] {spec : SketchSpec α}
    {nodes : List (SketchNode α)} {graph : ReferenceGraph nodes.length}
    {order : List (Fin nodes.length)} (untagged : spec.tags = [])
    (compiled : spec.compiledNodes = nodes.map .ok) (referring : SketchNode.graph nodes = graph)
    (ordered : graph.evaluationOrder = .ok order) :
    spec.compile = .ok { tags := [], nodes, order } := by
  have none : spec.compiledNodes.filterMap Failure.ofOutcome? = [] := by
    rw [compiled, List.filterMap_map, List.filterMap_eq_nil_iff]
    exact fun _ _ => rfl
  have all : spec.compiledNodes.filterMap Except.toOption = nodes := by
    rw [compiled, List.filterMap_map]
    exact List.filterMap_some
  rw [SketchSpec.compile, SketchSpec.failures, none, all, readTags_of_nil untagged]
  change Sketch.ofNodes [] nodes = _
  rw [Sketch.ofNodes, referring, ordered]
  rfl

namespace Invoice

def points (value : Float) : Length Float := LengthUnit.pt.size.scale value

/-- The label is looked for near the corner of the page, and only its characters count. -/
def labelSpec : NodeSpec Float where
  name := "label"
  searchAreas := [{
    topLeft := some (.absolute {})
    bottomRight := some
      (.absolute { left := some (.ofUnit .pt 90), top := some (.ofUnit .pt 90) }) }]
  lineText := some { regex := "A", boundsFromMatch := true }

/-- The amount is to the right of the label. -/
def amountSpec : NodeSpec Float where
  name := "amount"
  searchAreas := [{
    topLeft := some (.relative "label" .topRight none)
    width := some (.ofUnit .pt 50)
    height := some (.ofUnit .pt 20) }]
  lineText := some { regex := "1" }

/-- The amount is declared before the label on which it depends. -/
def spec : SketchSpec Float where
  nodes := [amountSpec, labelSpec]

def label : SketchNode Float :=
  let first : Source Float := .corner .topLeft (.absolute .origin)
  let last : Source Float := .corner .bottomRight (.absolute ⟨points 90, points 90⟩)
  { name := "label"
    areas := [⟨⟨first, none⟩, ⟨last, none⟩, ⟨last, none⟩, ⟨first, none⟩⟩]
    locator := ⟨.line, (Pattern.read? "A").get (by decide +kernel), true⟩
    tags := [] }

def amount : SketchNode Float :=
  let corner : Source Float := .corner .topLeft (.relative ⟨"label", .topRight⟩ .zero)
  { name := "amount"
    areas := [⟨⟨corner, none⟩, ⟨corner, some (points 50)⟩, ⟨corner, some (points 20)⟩,
      ⟨corner, none⟩⟩]
    locator := ⟨.line, (Pattern.read? "1").get (by decide +kernel), false⟩
    tags := [] }

def sketch : Sketch Float where
  tags := []
  nodes := [amount, label]
  order := [⟨1, by decide⟩, ⟨0, by decide⟩]

theorem compile_labelSpec : labelSpec.compile = .ok label := by
  rw [NodeSpec.compile, NodeSpec.failures, NodeSpec.readTags_of_nil rfl]
  rfl

theorem compile_amountSpec : amountSpec.compile = .ok amount := by
  rw [NodeSpec.compile, NodeSpec.failures, NodeSpec.readTags_of_nil rfl]
  rfl

def graph : ReferenceGraph 2 where
  name index := if index = 0 then "amount" else "label"
  references index := if index = 0 then [⟨"label", .topRight⟩] else []

theorem graph_eq : SketchNode.graph [amount, label] = graph := by
  ext index : 2
  · match index with
    | 0 => rfl
    | 1 => rfl
  · match index with
    | 0 => rfl
    | 1 => rfl

theorem compile_spec : spec.compile = .ok sketch := by
  have nodes : spec.compiledNodes = [amount, label].map .ok := by
    simp only [SketchSpec.compiledNodes, spec, List.map, compile_amountSpec, compile_labelSpec]
    rfl
  have order : graph.evaluationOrder = .ok [1, 0] := by cbv
  exact SketchSpec.compile_of_nodes rfl nodes graph_eq order

/-- A page with a label whose character ends at `right`, and an amount. -/
def page (right : Float) : Page Float where
  number := (1 : UInt64).toFin
  size := ⟨points 100, points 100⟩
  blocks := [{
    bounds := .zero
    lines := [
      ⟨⟨⟨10⟩, ⟨10⟩, ⟨20⟩, ⟨20⟩⟩, [⟨'A', ⟨⟨10⟩, ⟨10⟩, ⟨right⟩, ⟨20⟩⟩⟩]⟩,
      ⟨⟨⟨30⟩, ⟨10⟩, ⟨40⟩, ⟨20⟩⟩, [⟨'1', ⟨⟨30⟩, ⟨10⟩, ⟨40⟩, ⟨20⟩⟩⟩]⟩] }]

end Invoice

namespace Sketch

theorem consistent_of_analyzePage_invoice :
    ∃ report, Invoice.spec.compile = .ok Invoice.sketch ∧
      Invoice.sketch.analyzePage (Invoice.page 20) = .ok report ∧
      report.results.map NodeResult.isValid = [true, true] ∧
      Invoice.sketch.Consistent (Invoice.page 20) report := by
  have both : (Invoice.sketch.analyzePage (Invoice.page 20)).toOption.map
      (fun report => report.results.map NodeResult.isValid) = some [true, true] := by
    decide +kernel
  cases analyzed : Invoice.sketch.analyzePage (Invoice.page 20) with
  | error failure =>
      rw [analyzed] at both
      cases both
  | ok report =>
      rw [analyzed] at both
      exact ⟨report, Invoice.compile_spec, rfl, Option.some.inj both,
        consistent_of_analyzePage Invoice.compile_spec analyzed⟩

end Sketch

end PageSketch
