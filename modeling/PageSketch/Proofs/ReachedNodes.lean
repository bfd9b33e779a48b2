import Mathlib.Logic.Relation
import PageSketch.Proofs.PageAnalysis
import PageSketch.Proofs.SketchCompilation

/-! # What a node depends on

What is found out about a node depends on the page and on the nodes that are reached from it
by following references. Two sketches that declare the same of these nodes tell the same of
it, whatever else they declare, and in whatever order. -/

namespace PageSketch

namespace Sketch

variable {α : Type} [Scalar α]

/-- Some area of a node requires a feature of another one. -/
def Refers (sketch : Sketch α) (name other : String) : Prop :=
  ∃ node ∈ sketch.nodes, node.name = name ∧ ∃ ref ∈ node.references, ref.node = other

/-- A node is reached from another one, or is that node. -/
def Reaches (sketch : Sketch α) : String → String → Prop := Relation.ReflTransGen sketch.Refers

end Sketch

/-! ## Declarations -/

section

variable {α : Type} [Scalar α] {spec : SketchSpec α} {sketch : Sketch α} {node : SketchNode α}
  {written : NodeSpec α}

theorem NodeSpec.name_of_compile (compiled : written.compile = .ok node) :
    node.name = written.name := by
  rcases compile_of_failures (exists_compile_iff.mp ⟨node, compiled⟩) with ⟨locator, _, meant⟩
  cases meant.symm.trans compiled
  rfl

namespace SketchSpec

theorem nodes_of_compile (compiled : spec.compile = .ok sketch) :
    spec.failures = [] ∧ sketch.nodes = spec.compiledNodes.filterMap Except.toOption := by
  rcases Steps.bind_eq_ok.mp compiled with ⟨_, checked, built⟩
  rcases Steps.bind_eq_ok.mp built with ⟨tags, _, ordering⟩
  rcases Steps.bind_eq_ok.mp ordering with ⟨order, _, equal⟩
  cases equal
  exact ⟨Failure.checkAll_eq_ok.mp checked, rfl⟩

/-- The nodes of a sketch are those that are declared. -/
theorem mem_nodes (compiled : spec.compile = .ok sketch) :
    node ∈ sketch.nodes ↔ ∃ written ∈ spec.nodes, written.compile = .ok node := by
  rw [(nodes_of_compile compiled).2, compiledNodes, List.filterMap_map, List.mem_filterMap]
  apply exists_congr
  intro written
  apply and_congr_right
  intro _
  cases outcome : written.compile <;>
    simp [outcome, Failure.atPlace, Except.mapError, Except.toOption]

theorem exists_node (compiled : spec.compile = .ok sketch) (declared : written ∈ spec.nodes) :
    ∃ node ∈ sketch.nodes, written.compile = .ok node := by
  cases outcome : written.compile with
  | ok node => exact ⟨node, (mem_nodes compiled).mpr ⟨written, declared, outcome⟩, rfl⟩
  | error failure =>
      have none := (List.append_eq_nil_iff.mp (nodes_of_compile compiled).1).2
      have listed : Failure.atPlace ("node " ++ written.name) written.compile ∈
          spec.compiledNodes := List.mem_map_of_mem declared
      have fine := List.filterMap_eq_nil_iff.mp none _ listed
      rw [outcome] at fine
      cases fine

end SketchSpec

end

/-! ## Two reports -/

theorem PageReport.find?_of_mem {α : Type} {report : PageReport α} {result : NodeResult α}
    (distinct : (report.results.map NodeResult.name).Nodup) (present : result ∈ report.results) :
    report.find? result.name = some result := by
  rcases exists_find? present with ⟨other, found⟩
  have entered : other ∈ report.results := List.mem_of_find?_eq_some found
  have named : other.name = result.name := by simpa using List.find?_some found
  rw [found, List.inj_on_of_nodup_map distinct entered present named]

namespace Sketch

variable {α : Type} [Scalar α] {spec spec' : SketchSpec α} {sketch sketch' : Sketch α}
  {page : Page α} {report report' : PageReport α} {name : String} {node : SketchNode α}

theorem mem_of_reaches (compiled : spec.compile = .ok sketch)
    (compiled' : spec'.compile = .ok sketch')
    (shared : ∀ written ∈ spec.nodes, sketch.Reaches name written.name → written ∈ spec'.nodes)
    (member : node ∈ sketch.nodes) (reached : sketch.Reaches name node.name) :
    node ∈ sketch'.nodes := by
  rcases (SketchSpec.mem_nodes compiled).mp member with ⟨written, listed, meant⟩
  have kept := shared written listed (NodeSpec.name_of_compile meant ▸ reached)
  exact (SketchSpec.mem_nodes compiled').mpr ⟨written, kept, meant⟩

variable [SpatialIndex α]

/-- A report has the result of every node under its name. -/
theorem exists_result (executable : sketch.Executable)
    (analyzed : sketch.analyzePage page = .ok report) (member : node ∈ sketch.nodes) :
    ∃ result, report.find? node.name = some result ∧
      node.search page report.lookup = .ok result := by
  have listed := Reports.nodes_eq executable.distinct analyzed
  have distinct := executable.distinct
  have ordered := executable.complete.mem_iff.mpr member
  rw [← listed] at ordered distinct
  rw [List.map_map] at distinct
  rcases List.mem_map.mp ordered with ⟨result, present, rfl⟩
  have found : report.find? result.node.name = some result :=
    PageReport.find?_of_mem distinct present
  exact ⟨result, found, (search_of_mem executable analyzed present).1⟩

/-- Reports that agree on what a node refers to agree on the node. -/
theorem find?_eq_of_agree (executable : sketch.Executable) (executable' : sketch'.Executable)
    (analyzed : sketch.analyzePage page = .ok report)
    (analyzed' : sketch'.analyzePage page = .ok report')
    (member : node ∈ sketch.nodes) (member' : node ∈ sketch'.nodes)
    (agree : ∀ ref ∈ node.references, report.lookup ref = report'.lookup ref) :
    report.find? node.name = report'.find? node.name := by
  rcases exists_result executable analyzed member with ⟨result, found, searched⟩
  rcases exists_result executable' analyzed' member' with ⟨result', found', searched'⟩
  rw [SketchNode.search_congr agree, searched'] at searched
  cases searched
  rw [found, found']

/-- Going along the order in which one sketch evaluates its nodes, the reports agree on one
node after the other, as far as nodes are reached. -/
theorem find?_eq_of_reaches (compiled : spec.compile = .ok sketch)
    (compiled' : spec'.compile = .ok sketch')
    (analyzed : sketch.analyzePage page = .ok report)
    (analyzed' : sketch'.analyzePage page = .ok report')
    (shared : ∀ written ∈ spec.nodes, sketch.Reaches name written.name → written ∈ spec'.nodes)
    (before : List (SketchNode α)) (first : before <+: sketch.orderedNodes) :
    ∀ node ∈ before, sketch.Reaches name node.name →
      report.find? node.name = report'.find? node.name := by
  have executable := executable_of_compile compiled
  induction before using List.reverseRecOn with
  | nil => exact fun _ none => nomatch none
  | append_singleton before node induction =>
      intro other member reached
      have earlier := induction ((List.prefix_append before [node]).trans first)
      rcases List.mem_append.mp member with present | here
      · exact earlier other present reached
      · cases List.mem_singleton.mp here
        rcases first with ⟨after, split⟩
        rw [List.append_assoc, List.singleton_append] at split
        have declared : node ∈ sketch.nodes := by
          rw [← executable.complete.mem_iff, ← split]
          simp
        have declared' := mem_of_reaches compiled compiled' shared declared reached
        apply find?_eq_of_agree executable (executable_of_compile compiled') analyzed analyzed'
          declared declared'
        -- What the node refers to comes before it.
        intro ref needed
        rcases executable.led before node after split.symm ref needed with
          ⟨⟨target, present, named⟩, _⟩
        have step : sketch.Refers node.name target.name :=
          ⟨node, declared, rfl, ref, needed, named.symm⟩
        have same := earlier target present (reached.tail step)
        rw [PageReport.lookup, PageReport.lookup, ← named, same]

/-- If every node that is reached from a node is declared alike in two sketches, then their
reports on a page tell the same of it. -/
theorem result_depends_on_reached (compiled : spec.compile = .ok sketch)
    (compiled' : spec'.compile = .ok sketch')
    (declared : ∃ written ∈ spec.nodes, written.name = name)
    (shared : ∀ written ∈ spec.nodes, sketch.Reaches name written.name → written ∈ spec'.nodes)
    (analyzed : sketch.analyzePage page = .ok report)
    (analyzed' : sketch'.analyzePage page = .ok report') :
    ∃ result, report.find? name = some result ∧ report'.find? name = some result := by
  rcases declared with ⟨written, listed, rfl⟩
  rcases SketchSpec.exists_node compiled listed with ⟨node, member, meant⟩
  have named := NodeSpec.name_of_compile meant
  have executable := executable_of_compile compiled
  have ordered := executable.complete.mem_iff.mpr member
  have reached : sketch.Reaches written.name node.name := by
    rw [named]
    exact .refl
  have same := find?_eq_of_reaches compiled compiled' analyzed analyzed' shared _
    (List.prefix_refl _) node ordered reached
  rcases exists_result executable analyzed member with ⟨result, found, _⟩
  rw [named] at found same
  exact ⟨result, found, same ▸ found⟩

/-- More nodes, or another order of them, change nothing for the nodes that were there. -/
theorem find?_eq_of_subset (compiled : spec.compile = .ok sketch)
    (compiled' : spec'.compile = .ok sketch') (kept : spec.nodes ⊆ spec'.nodes)
    (analyzed : sketch.analyzePage page = .ok report)
    (analyzed' : sketch'.analyzePage page = .ok report') :
    ∀ node ∈ sketch.nodes, report.find? node.name = report'.find? node.name := by
  intro node member
  have ordered := (executable_of_compile compiled).complete.mem_iff.mpr member
  exact find?_eq_of_reaches compiled compiled' analyzed analyzed'
    (fun written listed _ => kept listed) _ (List.prefix_refl _) node ordered .refl

end Sketch

/-! ## An invoice with a note -/

namespace Invoice

def noteSpec : NodeSpec Float where
  name := "note"
  searchAreas := [{
    topLeft := some (.absolute {})
    bottomRight := some
      (.absolute { left := some (.ofUnit .pt 90), top := some (.ofUnit .pt 90) }) }]
  lineText := some { regex := "1" }

def notedSpec : SketchSpec Float where
  nodes := [amountSpec, labelSpec, noteSpec]

def note : SketchNode Float :=
  { name := "note"
    areas := label.areas
    locator := amount.locator
    tags := [] }

def notedSketch : Sketch Float where
  tags := []
  nodes := [amount, label, note]
  order := [⟨1, by decide⟩, ⟨0, by decide⟩, ⟨2, by decide⟩]

theorem compile_noteSpec : noteSpec.compile = .ok note := by
  rw [NodeSpec.compile, NodeSpec.failures, NodeSpec.readTags_of_nil rfl]
  rfl

/-- The graph of the three nodes, by what the label refers to. -/
def notedGraph (labelReferences : List FeatureRef) : ReferenceGraph 3 where
  name index := if index = 0 then "amount" else if index = 1 then "label" else "note"
  references index :=
    if index = 0 then [⟨"label", .topRight⟩] else if index = 1 then labelReferences else []

theorem notedGraph_eq {node : SketchNode Float} (named : node.name = "label") :
    SketchNode.graph [amount, node, note] = notedGraph node.references := by
  ext index : 2
  · match index with
    | 0 => rfl
    | 1 => exact named
    | 2 => rfl
  · match index with
    | 0 => rfl
    | 1 => rfl
    | 2 => rfl

theorem compile_notedSpec : notedSpec.compile = .ok notedSketch := by
  have nodes : notedSpec.compiledNodes = [amount, label, note].map .ok := by
    simp only [SketchSpec.compiledNodes, notedSpec, List.map, compile_amountSpec,
      compile_labelSpec, compile_noteSpec]
    rfl
  have order : (notedGraph label.references).evaluationOrder = .ok [1, 0, 2] := by
    change (notedGraph []).evaluationOrder = .ok [1, 0, 2]
    cbv
  exact SketchSpec.compile_of_nodes rfl nodes (notedGraph_eq rfl) order

/-- The note is looked for below the amount instead. -/
def movedNoteSpec : NodeSpec Float where
  name := "note"
  searchAreas := [{
    topLeft := some (.relative "amount" .bottomLeft none)
    width := some (.ofUnit .pt 50)
    height := some (.ofUnit .pt 20) }]
  lineText := some { regex := "1" }

def movedNote : SketchNode Float :=
  let corner : Source Float := .corner .topLeft (.relative ⟨"amount", .bottomLeft⟩ .zero)
  { note with
    areas := [⟨⟨corner, none⟩, ⟨corner, some (points 50)⟩, ⟨corner, some (points 20)⟩,
      ⟨corner, none⟩⟩] }

/-- The nodes are declared in another order, and the note is another one. -/
def shuffledSpec : SketchSpec Float where
  nodes := [movedNoteSpec, labelSpec, amountSpec]

def shuffledSketch : Sketch Float where
  tags := []
  nodes := [movedNote, label, amount]
  order := [⟨1, by decide⟩, ⟨2, by decide⟩, ⟨0, by decide⟩]

theorem compile_movedNoteSpec : movedNoteSpec.compile = .ok movedNote := by
  rw [NodeSpec.compile, NodeSpec.failures, NodeSpec.readTags_of_nil rfl]
  rfl

def shuffledGraph : ReferenceGraph 3 where
  name index := if index = 0 then "note" else if index = 1 then "label" else "amount"
  references index :=
    if index = 0 then [⟨"amount", .bottomLeft⟩] else if index = 1 then []
    else [⟨"label", .topRight⟩]

theorem shuffledGraph_eq : SketchNode.graph [movedNote, label, amount] = shuffledGraph := by
  ext index : 2
  · match index with
    | 0 => rfl
    | 1 => rfl
    | 2 => rfl
  · match index with
    | 0 => rfl
    | 1 => rfl
    | 2 => rfl

theorem compile_shuffledSpec : shuffledSpec.compile = .ok shuffledSketch := by
  have nodes : shuffledSpec.compiledNodes = [movedNote, label, amount].map .ok := by
    simp only [SketchSpec.compiledNodes, shuffledSpec, List.map, compile_amountSpec,
      compile_labelSpec, compile_movedNoteSpec]
    rfl
  have order : shuffledGraph.evaluationOrder = .ok [1, 2, 0] := by cbv
  exact SketchSpec.compile_of_nodes rfl nodes shuffledGraph_eq order

/-- The amount refers to the label, and the label to nothing. -/
theorem eq_of_reaches {name : String} (reached : notedSketch.Reaches "amount" name) :
    name = "amount" ∨ name = "label" := by
  induction reached with
  | refl => exact .inl rfl
  | tail _ refers earlier =>
      rcases refers with ⟨node, member, named, ref, needed, target⟩
      have nodes : node = amount ∨ node = label ∨ node = note := by
        simpa [notedSketch] using member
      rcases nodes with rfl | rfl | rfl
      · cases List.mem_singleton.mp needed
        exact .inr target.symm
      · cases needed
      · rw [← named] at earlier
        exact absurd earlier (by decide)

theorem reaches_label : notedSketch.Reaches "amount" "label" :=
  .single ⟨amount, by simp [notedSketch], rfl, ⟨"label", .topRight⟩, List.mem_singleton_self _,
    rfl⟩

end Invoice

namespace Sketch

theorem result_depends_on_reached_amount :
    ∃ report report' result, Invoice.notedSpec.compile = .ok Invoice.notedSketch ∧
      Invoice.shuffledSpec.compile = .ok Invoice.shuffledSketch ∧
      Invoice.notedSketch.Reaches "amount" "label" ∧
      Invoice.notedSketch.analyzePage (Invoice.page 20) = .ok report ∧
      Invoice.shuffledSketch.analyzePage (Invoice.page 20) = .ok report' ∧
      (report.find? "note").map NodeResult.isValid = some true ∧
      (report'.find? "note").map NodeResult.isValid = some false ∧
      report.find? "amount" = some result ∧ report'.find? "amount" = some result := by
  have declared : ∃ written ∈ Invoice.notedSpec.nodes, written.name = "amount" :=
    ⟨Invoice.amountSpec, by simp [Invoice.notedSpec], rfl⟩
  have shared : ∀ written ∈ Invoice.notedSpec.nodes,
      Invoice.notedSketch.Reaches "amount" written.name →
        written ∈ Invoice.shuffledSpec.nodes := by
    intro written listed reached
    have nodes : written = Invoice.amountSpec ∨ written = Invoice.labelSpec ∨
        written = Invoice.noteSpec := by
      simpa [Invoice.notedSpec] using listed
    rcases nodes with rfl | rfl | rfl
    · simp [Invoice.shuffledSpec]
    · simp [Invoice.shuffledSpec]
    · exact absurd (Invoice.eq_of_reaches reached) (by decide)
  have notes : (Invoice.notedSketch.analyzePage (Invoice.page 20)).toOption.bind
        (fun report => (report.find? "note").map NodeResult.isValid) = some true ∧
      (Invoice.shuffledSketch.analyzePage (Invoice.page 20)).toOption.bind
        (fun report => (report.find? "note").map NodeResult.isValid) = some false := by
    decide +kernel
  cases analyzed : Invoice.notedSketch.analyzePage (Invoice.page 20) with
  | error failure =>
      rw [analyzed] at notes
      cases notes.1
  | ok report =>
      cases analyzed' : Invoice.shuffledSketch.analyzePage (Invoice.page 20) with
      | error failure =>
          rw [analyzed'] at notes
          cases notes.2
      | ok report' =>
          rw [analyzed, analyzed'] at notes
          rcases result_depends_on_reached Invoice.compile_notedSpec Invoice.compile_shuffledSpec
            declared shared analyzed analyzed' with ⟨result, found, found'⟩
          exact ⟨report, report', result, Invoice.compile_notedSpec, Invoice.compile_shuffledSpec,
            Invoice.reaches_label, rfl, rfl, notes.1, notes.2, found, found'⟩

end Sketch

end PageSketch
