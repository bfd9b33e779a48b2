import PageSketch.Proofs.GroupNames
import PageSketch.Proofs.MatchSpans
import PageSketch.Proofs.ReachedNodes
import PageSketch.Proofs.ScheduledWork
import PageSketch.Sketch.Output

/-! # Matches in reports

A node of the output has bounds, a text and groups if it was found, and none of these
otherwise. Its groups are all those of the pattern, and each tells either which bytes of the
text it captured or that it captured none. -/

namespace PageSketch

/-! ## Groups of a match -/

/-- The stretch that a group captured. -/
def Pattern.Finding.span? (finding : Pattern.Finding) : Nat → Option Pattern.Span
  | 0 => some finding.whole
  | group + 1 => finding.captured.lookup (group + 1)

theorem Pattern.Finding.EndsBy.span? {finding : Pattern.Finding} {position group : Nat}
    {span : Pattern.Span} (ends : finding.EndsBy position)
    (captured : finding.span? group = some span) : span.EndsBy position := by
  cases group with
  | zero =>
      cases captured
      exact ends.whole
  | succ group => exact ends.captured _ (Pattern.mem_of_lookup captured)

namespace PatternMatch

/-- A match has an entry for each group of the pattern, with the stretch that was found. -/
structure Records (found : PatternMatch) (finding : Pattern.Finding) : Prop where
  search : Pattern.Search.find? found.pattern.program found.text.toList = some finding
  spans : found.spans = (List.range found.pattern.names.length).map finding.span?

variable {pattern : Pattern} {text : String} {found : PatternMatch} {finding : Pattern.Finding}
  {index : Nat}

theorem exists_records (names : pattern.NamesGroups)
    (evaluated : evaluate? pattern text = some found) :
    found.pattern = pattern ∧ found.text = text ∧ ∃ finding, found.Records finding := by
  rcases Option.map_eq_some_iff.mp evaluated with ⟨finding, search, rfl⟩
  refine ⟨rfl, rfl, finding, search, ?_⟩
  rcases List.getElem?_eq_some_iff.mp names.whole with ⟨some, _⟩
  rcases Nat.exists_eq_add_of_lt some with ⟨count, sized⟩
  rw [sized, Nat.zero_add, Nat.add_sub_cancel, List.range_succ_eq_map, List.map_cons,
    List.map_map]
  rfl

namespace Records

theorem size (records : found.Records finding) : found.size = found.pattern.names.length := by
  rw [PatternMatch.size, records.spans, List.length_map, List.length_range]

theorem names (records : found.Records finding) :
    found.groups.map MatchGroup.name = found.pattern.names.map (·.getD "") := by
  rw [groups_eq, records.size, List.map_map]
  apply List.ext_getElem?
  intro index
  rw [List.getElem?_map, List.getElem?_map]
  by_cases inside : index < found.pattern.names.length
  · simp [entry, inside]
  · simp [inside]

/-- What a group captured is told in bytes, together with its text. -/
theorem entry_eq (records : found.Records finding) (inside : index < found.pattern.names.length) :
    found.entry index =
      { name := ((found.pattern.names[index]?).join).getD ""
        span := (finding.span? index).map fun span =>
          ⟨byteOffset found.text.toList span.start, byteOffset found.text.toList span.stop⟩
        text := (finding.span? index).elim "" fun span =>
          String.ofList (slice found.text.toList span) } := by
  have captured : (found.spans[index]?).join = finding.span? index := by
    simp [records.spans, inside]
  rw [entry, span?, captured]

end Records

end PatternMatch

/-! ## Groups of the output -/

namespace GroupOutput

/-- A group of the output tells of a stretch of a text. -/
structure Locates (output : GroupOutput) (text : String) (span : Pattern.Span) : Prop where
  start : output.start = PatternMatch.byteOffset text.toList span.start
  stop : output.stop = PatternMatch.byteOffset text.toList span.stop
  nonneg : 0 ≤ output.start
  ordered : output.start ≤ output.stop
  inside : output.stop ≤ text.utf8ByteSize
  bytes : output.text.toByteArray =
    text.toByteArray.extract output.start.toNat output.stop.toNat

/-- A group of the output tells of what was captured, if anything was. -/
def Tells (output : GroupOutput) (text : String) : Option Pattern.Span → Prop
  | some span => output.Locates text span
  | none => output.start = -1 ∧ output.stop = -1 ∧ output.text = ""

variable {found : PatternMatch} {finding : Pattern.Finding} {index : Nat}

theorem locates_of_slice {text name : String} {span : Pattern.Span}
    (ends : span.EndsBy text.toList.length) :
    Locates
      { name
        start := PatternMatch.byteOffset text.toList span.start
        stop := PatternMatch.byteOffset text.toList span.stop
        text := String.ofList (PatternMatch.slice text.toList span) } text span where
  start := rfl
  stop := rfl
  nonneg := Int.natCast_nonneg _
  ordered := by
    rw [PatternMatch.byteOffset_stop _ ends.1]
    exact Int.ofNat_le.mpr (Nat.le_add_right _ _)
  inside := by
    rw [← Text.byteLength_toList]
    exact Int.ofNat_le.mpr (PatternMatch.byteOffset_le _ _)
  bytes := PatternMatch.toByteArray_slice text ends.1

theorem tells_entry (records : found.Records finding)
    (inside : index < found.pattern.names.length) :
    (ofGroup (found.entry index)).Tells found.text (finding.span? index) := by
  have ends := Pattern.Search.endsBy_of_find? records.search
  rw [records.entry_eq inside]
  cases captured : finding.span? index with
  | none => exact ⟨rfl, rfl, rfl⟩
  | some span => exact locates_of_slice (ends.span? captured)

theorem getElem?_groups (records : found.Records finding) {group : GroupOutput} :
    (found.groups.map ofGroup)[index]? = some group ↔
      index < found.pattern.names.length ∧ group = ofGroup (found.entry index) := by
  rw [PatternMatch.groups_eq, records.size, List.map_map, List.getElem?_map,
    Option.map_eq_some_iff]
  by_cases inside : index < found.pattern.names.length
  · simp [inside, eq_comm]
  · simp [inside]

end GroupOutput

/-! ## Nodes of the output -/

/-- A node of the output has a place, a text and groups if it was found, and else none of
these. The groups are those of the pattern, the whole match first. -/
structure NodeOutput.Shows {α : Type} (output : NodeOutput α) (result : NodeResult α) : Prop where
  name : output.name = result.name
  bounds : output.isValid = true ↔ output.bounds.isSome = true
  text : output.isValid = true ↔ output.text.isSome = true
  groups : output.isValid = true ↔ output.groups ≠ []
  names : output.isValid = true →
    output.groups.map GroupOutput.name = result.node.locator.pattern.names.map (·.getD "")
  matched : ∀ text, output.text = some text → ∃ finding,
    Pattern.Search.find? result.node.locator.pattern.program text.toList = some finding ∧
      (∃ whole, output.groups[0]? = some whole ∧ whole.name = "" ∧
        whole.Locates text finding.whole) ∧
      ∀ (index : Nat) group, output.groups[index]? = some group →
        group.Tells text (finding.span? index)
  found : ∀ found, result.match? = some found → output.text = some found.text ∧
    output.groups = found.groups.map GroupOutput.ofGroup ∧ found.Coherent

namespace NodeOutput

variable {α : Type} [Scalar α] {result : NodeResult α} {format : LengthFormat α}

theorem shows_of_not_located (missing : result.located = none) :
    (ofResult format result).Shows result := by
  constructor
  · rfl
  all_goals simp [ofResult, NodeResult.isValid, NodeResult.bounds?, NodeResult.text?,
    NodeResult.match?, missing]

theorem shows_of_located {located : Located α} (here : result.located = some located)
    (names : result.node.locator.pattern.NamesGroups)
    (evaluated : PatternMatch.evaluate? result.node.locator.pattern located.text =
      some located.found) :
    (ofResult format result).Shows result := by
  rcases PatternMatch.exists_records names evaluated with ⟨pattern, _, finding, records⟩
  have valid : (ofResult format result).isValid = true := by
    simp [ofResult, NodeResult.isValid, here]
  have groups : (ofResult format result).groups =
      located.found.groups.map GroupOutput.ofGroup := by
    simp [ofResult, NodeResult.match?, here]
  rcases List.getElem?_eq_some_iff.mp names.whole with ⟨some, _⟩
  rw [← pattern] at names some
  have first := (GroupOutput.getElem?_groups records).mpr ⟨some, rfl⟩
  constructor
  · rfl
  · simp [ofResult, NodeResult.isValid, NodeResult.bounds?, here]
  · simp [ofResult, NodeResult.isValid, NodeResult.text?, here]
  · refine ⟨fun _ none => ?_, fun _ => valid⟩
    rw [← groups, none] at first
    cases first
  · intro _
    rw [groups, List.map_map, ← pattern]
    exact records.names
  · intro told same
    have equal : located.text = told := by
      simpa [ofResult, NodeResult.text?, here] using same
    subst equal
    rw [groups, ← pattern]
    refine ⟨finding, records.search, ⟨_, first, ?_, GroupOutput.tells_entry records some⟩, ?_⟩
    · simp [GroupOutput.ofGroup, PatternMatch.entry, names.whole]
    · intro index group listed
      rcases (GroupOutput.getElem?_groups records).mp listed with ⟨inside, rfl⟩
      exact GroupOutput.tells_entry records inside
  · intro found matched
    have equal : located.found = found := by
      simpa [NodeResult.match?, here] using matched
    subst equal
    refine ⟨?_, groups, PatternMatch.coherent_of_namesGroups names⟩
    simp [ofResult, NodeResult.text?, here, Located.text]

end NodeOutput

/-! ## Reports on documents -/

section

variable {α : Type} [Scalar α] {spec : SketchSpec α} {sketch : Sketch α} {node : SketchNode α}

theorem NodeSpec.namesGroups_of_compile {written : NodeSpec α}
    (compiled : written.compile = .ok node) : node.locator.pattern.NamesGroups := by
  rcases compile_of_failures (exists_compile_iff.mp ⟨node, compiled⟩) with
    ⟨locator, meant, built⟩
  cases built.symm.trans compiled
  rcases locator_cases written with ⟨_, _, refused⟩ | ⟨_, _, _, _, refused⟩ |
    ⟨kind, matcher, _, searched⟩
  · cases refused.symm.trans meant
  · cases refused.symm.trans meant
  · rw [searched, TextLocator.ofSpec] at meant
    cases read : Pattern.compile matcher.regex with
    | error failure =>
        rw [read] at meant
        cases meant
    | ok pattern =>
        rw [read] at meant
        cases meant
        exact Pattern.namesGroups_of_compile read

namespace Sketch

variable [SpatialIndex α] {page : Page α} {onPage : PageReport α} {result : NodeResult α}

/-- The text in which a node was found has been matched against its pattern. -/
theorem evaluated_of_mem (executable : sketch.Executable)
    (analyzed : sketch.analyzePage page = .ok onPage) (member : result ∈ onPage.results)
    {located : Located α} (here : result.located = some located) :
    PatternMatch.evaluate? result.node.locator.pattern located.text = some located.found := by
  have searched := (search_of_mem executable analyzed member).1
  rcases SketchNode.exists_locateIn?_of_search searched here with ⟨area, _, element, _, inside⟩
  rcases TextLocator.locateIn?_eq_some.mp inside with ⟨_, evaluated, _⟩
  rwa [Located.text, PatternMatch.text_of_evaluate? evaluated]

theorem node_mem (executable : sketch.Executable)
    (analyzed : sketch.analyzePage page = .ok onPage) (member : result ∈ onPage.results) :
    result.node ∈ sketch.nodes := by
  rw [← executable.complete.mem_iff, ← Reports.nodes_eq executable.distinct analyzed]
  exact List.mem_map_of_mem member

variable {document : Document α} {contents : Option ByteArray} {token : CancelToken}
  {timeline : Timeline} {range : PageRange} {schedule : (count : Nat) → Schedule count}
  {report : DocumentReport α}

theorem exists_page_of_analyzeDocument
    (analyzed : (sketch.analyzeDocument document contents token timeline range schedule).1 =
      .ok report)
    (member : onPage ∈ report.pages) : ∃ page, sketch.analyzePage page = .ok onPage := by
  rcases Steps.bind_eq_ok.mp analyzed with ⟨pages, _, working⟩
  rcases Steps.bind_eq_ok.mp working with ⟨reports, worked, equal⟩
  cases equal
  rcases exists_page_of_analyzePages worked member with ⟨page, _, here⟩
  exact ⟨page, here⟩

/-- Whatever the format, each node of the output shows what was found out about the node: its
groups tell of the match in the text that is shown. -/
theorem output_shows_matches (compiled : spec.compile = .ok sketch)
    (analyzed : (sketch.analyzeDocument document contents token timeline range schedule).1 =
      .ok report)
    (format : LengthFormat α) :
    List.Forall₂
      (fun onPage output => List.Forall₂
        (fun result shown => result.node ∈ sketch.nodes ∧ NodeOutput.Shows shown result)
        onPage.results output.nodes)
      report.pages (DocumentOutput.ofReport format report).pages := by
  have executable := executable_of_compile compiled
  rw [DocumentOutput.ofReport, List.forall₂_map_right_iff, List.forall₂_same]
  intro onPage listed
  rcases exists_page_of_analyzeDocument analyzed listed with ⟨page, worked⟩
  rw [PageOutput.ofReport, List.forall₂_map_right_iff, List.forall₂_same]
  intro result member
  have declared := node_mem executable worked member
  refine ⟨declared, ?_⟩
  rcases (SketchSpec.mem_nodes compiled).mp declared with ⟨written, _, meant⟩
  have names := NodeSpec.namesGroups_of_compile meant
  cases here : result.located with
  | none => exact NodeOutput.shows_of_not_located here
  | some located =>
      exact NodeOutput.shows_of_located here names
        (evaluated_of_mem executable worked member here)

end Sketch

end

/-! ## An invoice with groups -/

namespace Invoice

/-- The label is a group with a name. No other group takes part in the match. -/
def groupsMatcher : MatcherSpec := { regex := "(?P<_>A)(B)?" }

def groupsLabelSpec : NodeSpec Float := { labelSpec with lineText := some groupsMatcher }

def groupsSpec : SketchSpec Float where
  nodes := [groupsLabelSpec]

theorem isSome_read_groupsMatcher : (Pattern.read? groupsMatcher.regex).isSome = true := by
  decide +kernel

def groupsLocator : TextLocator :=
  ⟨.line, (Pattern.read? groupsMatcher.regex).get isSome_read_groupsMatcher, false⟩

def groupsLabel : SketchNode Float := { label with locator := groupsLocator }

def groupsSketch : Sketch Float where
  tags := []
  nodes := [groupsLabel]
  order := [⟨0, by decide⟩]

theorem locator_groupsLabelSpec : groupsLabelSpec.locator = .ok groupsLocator := by
  have searches : groupsLabelSpec.Searches .line groupsMatcher := ⟨rfl, rfl⟩
  have read : Pattern.read? groupsMatcher.regex = some groupsLocator.pattern :=
    (Option.some_get isSome_read_groupsMatcher).symm
  rw [NodeSpec.locator_of_searches searches, TextLocator.ofSpec, Pattern.compile, read]
  rfl

theorem compile_groupsLabelSpec : groupsLabelSpec.compile = .ok groupsLabel := by
  rw [NodeSpec.compile, NodeSpec.failures, NodeSpec.readTags_of_nil rfl, locator_groupsLabelSpec]
  rfl

def groupsGraph : ReferenceGraph 1 := ⟨fun _ => "label", fun _ => []⟩

theorem graph_groupsLabel : SketchNode.graph [groupsLabel] = groupsGraph := by
  ext index : 2
  · match index with
    | 0 => rfl
  · match index with
    | 0 => rfl

theorem compile_groupsSpec : groupsSpec.compile = .ok groupsSketch := by
  have nodes : groupsSpec.compiledNodes = [groupsLabel].map .ok := by
    simp only [SketchSpec.compiledNodes, groupsSpec, List.map, compile_groupsLabelSpec]
    rfl
  have order : groupsGraph.evaluationOrder = .ok [0] := by cbv
  exact SketchSpec.compile_of_nodes rfl nodes graph_groupsLabel order

/-- The outcome of the analysis of an invoice with one page. -/
def groupsOutcome : Except Failure (DocumentReport Float) :=
  (groupsSketch.analyzeDocument (.memory [page 20] none none) none { flag := 0 } (fun _ => {}) .all
    (fun count => .sequential count fun _ => {})).1

def inPoints : LengthFormat Float := { unit := .pt, nearest := none }

end Invoice

namespace Sketch

theorem output_shows_matches_invoice :
    ∃ report, Invoice.groupsSpec.compile = .ok Invoice.groupsSketch ∧
      Invoice.groupsOutcome = .ok report ∧
      (DocumentOutput.ofReport Invoice.inPoints report).pages.map
          (fun output => output.nodes.map NodeOutput.groups) =
        [[[⟨"", 0, 1, "A"⟩, ⟨"_", 0, 1, "A"⟩, ⟨"", -1, -1, ""⟩]]] ∧
      List.Forall₂
        (fun onPage output => List.Forall₂
          (fun result shown =>
            result.node ∈ Invoice.groupsSketch.nodes ∧ NodeOutput.Shows shown result)
          onPage.results output.nodes)
        report.pages (DocumentOutput.ofReport Invoice.inPoints report).pages := by
  have groups : Invoice.groupsOutcome.toOption.map
      (fun report => (DocumentOutput.ofReport Invoice.inPoints report).pages.map
        fun output => output.nodes.map NodeOutput.groups) =
      some [[[⟨"", 0, 1, "A"⟩, ⟨"_", 0, 1, "A"⟩, ⟨"", -1, -1, ""⟩]]] := by
    decide +kernel
  cases analyzed : Invoice.groupsOutcome with
  | error failure =>
      rw [analyzed] at groups
      cases groups
  | ok report =>
      rw [analyzed] at groups
      exact ⟨report, Invoice.compile_groupsSpec, rfl, Option.some.inj groups,
        output_shows_matches Invoice.compile_groupsSpec analyzed Invoice.inPoints⟩

end Sketch

end PageSketch
