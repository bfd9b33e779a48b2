import PageSketch.Proofs.NodeSearch
import PageSketch.Sketch.Analysis

/-! # Partial reports

While nodes with distinct names are evaluated, results are only added at the end, so that
what a partial report says of a node stays what the report says of it. -/

namespace PageSketch

/-! ## What a result tells -/

namespace NodeResult

variable {α : Type} [Scalar α] {result : NodeResult α} {feature : Feature}

theorem featurePosition_of_isValid (valid : result.isValid = true)
    (corner : feature.isPoint = true) : ∃ point, result.featurePosition feature = .ok point := by
  rcases result with ⟨node, areas, located⟩
  cases located with
  | none => cases valid
  | some located =>
      rw [← Feature.isSome_locate? feature located.bounds] at corner
      rcases Option.isSome_iff_exists.mp corner with ⟨point, here⟩
      exact ⟨point, by simp [featurePosition, bounds?, here]⟩

theorem featurePosition_of_not_isValid (invalid : result.isValid = false) :
    ∃ detail, result.featurePosition feature = .error (.cause (.positionUnknown detail)) := by
  rcases result with ⟨node, areas, located⟩
  cases located with
  | none => exact ⟨_, rfl⟩
  | some located => cases invalid

end NodeResult

/-! ## What a report tells -/

namespace PageReport

variable {α : Type} {report early : PageReport α} {name : String} {result : NodeResult α}

theorem exists_find? (member : result ∈ report.results) :
    ∃ other, report.find? result.name = some other := by
  apply Option.isSome_iff_exists.mp
  exact List.find?_isSome.mpr ⟨result, member, by simp⟩

/-- What a partial report has found remains found. -/
theorem find?_of_isPrefix (grown : early.results <+: report.results)
    (found : early.find? name = some result) : report.find? name = some result :=
  grown.find?_eq_some found

/-- The report has a result for the node of a reference, and the feature is a corner. -/
def Answers (report : PageReport α) (ref : FeatureRef) : Prop :=
  (∃ result, report.find? ref.node = some result) ∧ ref.feature.isPoint = true

theorem Answers.of_isPrefix (grown : early.results <+: report.results) {ref : FeatureRef}
    (answered : early.Answers ref) : report.Answers ref := by
  rcases answered with ⟨⟨result, found⟩, corner⟩
  exact ⟨⟨result, find?_of_isPrefix grown found⟩, corner⟩

/-- The node of a reference has no place. -/
def Lacks (report : PageReport α) (ref : FeatureRef) : Prop :=
  ∃ result, report.find? ref.node = some result ∧ result.isValid = false

theorem insertResult_of_fresh {results : List (NodeResult α)}
    (fresh : ∀ other ∈ results, other.name ≠ result.name) :
    insertResult result results = results ++ [result] := by
  induction results with
  | nil => rfl
  | cons first rest induction =>
      have different := fresh first List.mem_cons_self
      have later := induction fun other member => fresh other (List.mem_cons_of_mem first member)
      rw [insertResult, if_neg different, later, List.cons_append]

/-- The names of the nodes in a report and of those to come are distinct. -/
def Apart (report : PageReport α) (nodes : List (SketchNode α)) : Prop :=
  ((report.results.map NodeResult.node ++ nodes).map SketchNode.name).Nodup

theorem Apart.fresh {node : SketchNode α} {nodes : List (SketchNode α)}
    (apart : report.Apart (node :: nodes)) :
    ∀ other ∈ report.results, other.name ≠ node.name := by
  rw [Apart, List.map_append, List.nodup_append] at apart
  intro other member
  exact apart.2.2 other.name (by simpa using ⟨other, member, rfl⟩) node.name (by simp)

variable [Scalar α]

theorem lookup_of_find? {ref : FeatureRef} (found : report.find? ref.node = some result) :
    report.lookup ref = result.featurePosition ref.feature := by
  rw [lookup, found]

theorem lookup_of_isPrefix (grown : early.results <+: report.results) {ref : FeatureRef}
    (answered : early.Answers ref) : early.lookup ref = report.lookup ref := by
  rcases answered.1 with ⟨result, found⟩
  rw [lookup_of_find? found, lookup_of_find? (find?_of_isPrefix grown found)]

theorem lookup_of_lacks {ref : FeatureRef} (lacking : report.Lacks ref) :
    ∃ detail, report.lookup ref = .error (.cause (.positionUnknown detail)) := by
  rcases lacking with ⟨result, found, invalid⟩
  rw [lookup_of_find? found]
  exact result.featurePosition_of_not_isValid invalid

theorem lookup_of_not_lacks {ref : FeatureRef} (answered : report.Answers ref)
    (placed : ¬report.Lacks ref) : ∃ point, report.lookup ref = .ok point := by
  rcases answered with ⟨⟨result, found⟩, corner⟩
  rw [lookup_of_find? found]
  cases valid : result.isValid with
  | true => exact result.featurePosition_of_isValid valid corner
  | false => exact absurd ⟨result, found, valid⟩ placed

/-! ## Areas -/

variable {area : AnchoredRect α}

/-- An area that depends on a node without a place lacks a position. -/
theorem resolve_of_lacks {ref : FeatureRef} (member : ref ∈ area.required)
    (lacking : report.Lacks ref) :
    ∃ failure, area.resolve report.lookup = .error failure ∧
      failure.is .positionUnknown = true := by
  rcases lookup_of_lacks lacking with ⟨detail, told⟩
  cases evaluated : area.evaluate report.lookup with
  | ok raw =>
      rcases AnchoredRect.evaluate_isOk_iff.mp ⟨raw, evaluated⟩ ref member with ⟨point, known⟩
      rw [told] at known
      cases known
  | error failure =>
      refine ⟨failure, AnchoredRect.resolve_eq_error.mpr (.inl evaluated), ?_⟩
      apply (AnchoredRect.is_of_evaluate evaluated _).mpr
      exact .inl ⟨ref, member, _, told, by simp [Cause.kind]⟩

/-- If the nodes on which an area depends have places, all of its sides have coordinates. -/
theorem evaluate_of_not_lacks (answered : ∀ ref ∈ area.required, report.Answers ref)
    (placed : ∀ ref ∈ area.required, ¬report.Lacks ref) :
    ∃ raw, area.evaluate report.lookup = .ok raw :=
  AnchoredRect.evaluate_isOk_iff.mpr fun ref member =>
    lookup_of_not_lacks (answered ref member) (placed ref member)

theorem lacks_of_resolve (answered : ∀ ref ∈ area.required, report.Answers ref)
    {failure : Failure} (failed : area.resolve report.lookup = .error failure)
    (unknown : failure.is .positionUnknown = true) :
    ∃ ref ∈ area.required, report.Lacks ref := by
  by_contra placed
  push Not at placed
  rcases evaluate_of_not_lacks answered placed with ⟨raw, evaluated⟩
  rcases AnchoredRect.resolve_eq_error.mp failed with stopped | ⟨other, _, _, rfl⟩
  · rw [evaluated] at stopped
    cases stopped
  · simp [AnchoredRect.unordered, Cause.kind] at unknown

/-- Apart from areas that lack a position, only those fail whose edges have no order. -/
theorem unordered_of_resolve (answered : ∀ ref ∈ area.required, report.Answers ref)
    {failure : Failure} (failed : area.resolve report.lookup = .error failure)
    (known : failure.is .positionUnknown = false) :
    ∃ raw, area.evaluate report.lookup = .ok raw ∧ ¬raw.normalize.IsNormalized ∧
      failure = AnchoredRect.unordered raw := by
  have placed : ∀ ref ∈ area.required, ¬report.Lacks ref := by
    intro ref member lacking
    rcases resolve_of_lacks member lacking with ⟨other, stopped, unknown⟩
    rw [failed] at stopped
    cases stopped
    rw [known] at unknown
    cases unknown
  rcases evaluate_of_not_lacks answered placed with ⟨raw, evaluated⟩
  rcases AnchoredRect.resolve_eq_error.mp failed with stopped | unordered
  · rw [evaluated] at stopped
    cases stopped
  · exact unordered

end PageReport

/-! ## Runs -/

namespace Sketch

variable {α : Type} {page : Page α} {start report : PageReport α}
  {nodes before after : List (SketchNode α)} {node : SketchNode α}

theorem distinct_of_append (distinct : ((before ++ after).map SketchNode.name).Nodup) :
    (before.map SketchNode.name).Nodup := by
  rw [List.map_append] at distinct
  exact (List.nodup_append.mp distinct).1

variable [Scalar α] [SpatialIndex α]

theorem analyzeNode_eq_ok :
    analyzeNode page start node = .ok report ↔
      ∃ result, node.search page start.lookup = .ok result ∧ report = start.insert result := by
  rw [analyzeNode, Steps.bind_eq_ok]
  apply exists_congr
  intro result
  rw [Failure.atPlace_eq_ok]
  apply and_congr_right
  intro _
  exact ⟨fun equal => (Except.ok.inj equal).symm, fun equal => equal ▸ rfl⟩

theorem analyzeNode_eq_error {failure : Failure} :
    analyzeNode page start node = .error failure ↔
      ∃ inner, node.search page start.lookup = .error inner ∧
        failure = .within ("search for node " ++ Text.quoted node.name ++ " on page "
          ++ toString page.number.val) inner := by
  rw [analyzeNode, Steps.bind_eq_error, Failure.atPlace_eq_error]
  constructor
  · rintro (failed | ⟨result, _, impossible⟩)
    · exact failed
    · cases impossible
  · exact .inl

/-- A step with a name that is new adds a result at the end. -/
theorem results_of_analyzeNode (apart : start.Apart (node :: nodes))
    (stepped : analyzeNode page start node = .ok report) :
    ∃ result, node.search page start.lookup = .ok result ∧
      report.results = start.results ++ [result] ∧
      report.results.map NodeResult.node ++ nodes =
        start.results.map NodeResult.node ++ node :: nodes := by
  rcases analyzeNode_eq_ok.mp stepped with ⟨result, searched, rfl⟩
  have owner := (SketchNode.search_eq_ok.mp searched).1
  have added : (start.insert result).results = start.results ++ [result] := by
    apply PageReport.insertResult_of_fresh
    intro other member same
    exact apart.fresh other member (same.trans (congrArg SketchNode.name owner))
  refine ⟨result, searched, added, ?_⟩
  rw [added, List.map_append, List.append_assoc, ← owner]
  rfl

/-- A run over nodes whose names are distinct adds their results in order. -/
theorem results_of_run (apart : start.Apart nodes)
    (run : nodes.foldlM (analyzeNode page) start = .ok report) :
    start.results <+: report.results ∧
      report.results.map NodeResult.node = start.results.map NodeResult.node ++ nodes := by
  induction nodes generalizing start with
  | nil =>
      cases run
      exact ⟨List.prefix_refl _, (List.append_nil _).symm⟩
  | cons node rest induction =>
      rw [List.foldlM_cons] at run
      rcases Steps.bind_eq_ok.mp run with ⟨next, stepped, others⟩
      rcases results_of_analyzeNode apart stepped with ⟨result, _, added, same⟩
      -- The node has moved from those to come into the report, so the names are the same.
      have later : next.Apart rest := by rwa [PageReport.Apart, same]
      rcases induction later others with ⟨grown, listed⟩
      exact ⟨(added ▸ List.prefix_append _ _).trans grown, listed.trans same⟩

/-- The report after some nodes have been evaluated, one after the other. -/
def Reports (page : Page α) (nodes : List (SketchNode α)) (report : PageReport α) : Prop :=
  nodes.foldlM (analyzeNode page) (.empty page) = .ok report

theorem Reports.nodes_eq (distinct : (nodes.map SketchNode.name).Nodup)
    (reports : Reports page nodes report) : report.results.map NodeResult.node = nodes := by
  have apart : (PageReport.empty page).Apart nodes := distinct
  exact (results_of_run apart reports).2

/-- A run that is cut in two has a partial report, which remains. -/
theorem Reports.split (distinct : ((before ++ after).map SketchNode.name).Nodup)
    (reports : Reports page (before ++ after) report) :
    ∃ early, Reports page before early ∧ early.results.map NodeResult.node = before ∧
      early.results <+: report.results ∧ after.foldlM (analyzeNode page) early = .ok report := by
  rw [Reports, List.foldlM_append] at reports
  rcases Steps.bind_eq_ok.mp reports with ⟨early, first, rest⟩
  have listed : early.results.map NodeResult.node = before :=
    Reports.nodes_eq (distinct_of_append distinct) first
  have apart : early.Apart after := by rwa [PageReport.Apart, listed]
  exact ⟨early, first, listed, (results_of_run apart rest).1, rest⟩

/-- The result of a node is that of a search with what the nodes before it have told. -/
theorem Reports.search (distinct : ((before ++ node :: after).map SketchNode.name).Nodup)
    (reports : Reports page (before ++ node :: after) report) :
    ∃ early result later, Reports page before early ∧
      early.results.map NodeResult.node = before ∧
      report.results = early.results ++ result :: later ∧
      node.search page early.lookup = .ok result := by
  rcases reports.split distinct with ⟨early, first, listed, _, rest⟩
  rw [List.foldlM_cons] at rest
  rcases Steps.bind_eq_ok.mp rest with ⟨next, stepped, others⟩
  have apart : early.Apart (node :: after) := by rwa [PageReport.Apart, listed]
  rcases results_of_analyzeNode apart stepped with ⟨result, searched, added, same⟩
  have later : next.Apart after := by rwa [PageReport.Apart, same]
  rcases (results_of_run later others).1 with ⟨last, grown⟩
  refine ⟨early, result, last, first, listed, ?_, searched⟩
  rw [← grown, added, List.append_assoc]
  rfl

end Sketch

end PageSketch
