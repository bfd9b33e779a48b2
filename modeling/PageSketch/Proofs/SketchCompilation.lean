import PageSketch.Proofs.AreaDetermination
import PageSketch.Proofs.EvaluationOrder

/-! # Compilation of sketches

A sketch is compiled if its tags and all parts of all nodes make sense on their own, and its
nodes can be put into an order. What is wrong with any part is told together with all else
that is wrong, and nothing is said of the order then. -/

namespace PageSketch

namespace Failure

variable {α : Type}

theorem mem_ofOutcome? {outcome : Except Failure α} {failure : Failure} :
    failure ∈ (ofOutcome? outcome).toList ↔ outcome = .error failure := by
  rw [Option.mem_toList, ofOutcome?_eq_some]

end Failure

/-! ## Nodes -/

theorem Pattern.compile_eq_error {source : String} {failure : Failure} :
    compile source = .error failure ↔
      read? source = none ∧ failure = .cause (.invalidPattern source) := by
  rw [compile]
  cases read? source <;> simp [eq_comm]

theorem TextLocator.ofSpec_eq_error {kind : ElementKind} {matcher : MatcherSpec}
    {failure : Failure} :
    ofSpec kind matcher = .error failure ↔ Pattern.compile matcher.regex = .error failure := by
  rw [ofSpec]
  cases Pattern.compile matcher.regex <;> simp [Except.map]

namespace NodeSpec

variable {α : Type}

/-- The node has one matcher, for elements of a kind. -/
def Searches (spec : NodeSpec α) : ElementKind → MatcherSpec → Prop
  | .block, matcher => spec.blockText = some matcher ∧ spec.lineText = none
  | .line, matcher => spec.blockText = none ∧ spec.lineText = some matcher

variable {spec : NodeSpec α} {failure : Failure}

theorem Searches.unique {kind kind' : ElementKind} {matcher matcher' : MatcherSpec}
    (searches : spec.Searches kind matcher) (searches' : spec.Searches kind' matcher') :
    matcher = matcher' := by
  cases kind <;> cases kind'
  · exact Option.some.inj (searches.1.symm.trans searches'.1)
  · cases searches.2.symm.trans searches'.2
  · cases searches.1.symm.trans searches'.1
  · exact Option.some.inj (searches.2.symm.trans searches'.2)

theorem locator_of_searches {kind : ElementKind} {matcher : MatcherSpec}
    (searches : spec.Searches kind matcher) : spec.locator = TextLocator.ofSpec kind matcher := by
  cases kind with
  | block => rw [locator, searches.1, searches.2]
  | line => rw [locator, searches.1, searches.2]

/-- A node has no matcher, or two, or one whose pattern is compiled. -/
theorem locator_cases (spec : NodeSpec α) :
    spec.blockText = none ∧ spec.lineText = none ∧
        spec.locator = .error (NodeProblem.noMatcher spec.name).toFailure ∨
      (∃ block line, spec.blockText = some block ∧ spec.lineText = some line ∧
        spec.locator = .error (NodeProblem.twoMatchers spec.name).toFailure) ∨
      ∃ kind matcher, spec.Searches kind matcher ∧
        spec.locator = TextLocator.ofSpec kind matcher := by
  cases hasBlock : spec.blockText with
  | none =>
      cases hasLine : spec.lineText with
      | none => exact .inl ⟨rfl, rfl, by rw [locator, hasBlock, hasLine]⟩
      | some line =>
          have searches : spec.Searches .line line := ⟨hasBlock, hasLine⟩
          exact .inr (.inr ⟨.line, line, searches, locator_of_searches searches⟩)
  | some block =>
      cases hasLine : spec.lineText with
      | none =>
          have searches : spec.Searches .block block := ⟨hasBlock, hasLine⟩
          exact .inr (.inr ⟨.block, block, searches, locator_of_searches searches⟩)
      | some line =>
          exact .inr (.inl ⟨block, line, rfl, rfl, by rw [locator, hasBlock, hasLine]⟩)

/-- What is told about a matcher is a single cause. -/
theorem cause_of_locator (failed : spec.locator = .error failure) :
    ∃ leaf, failure = .cause leaf ∧ leaf.kind ≠ .incompleteConfig := by
  rcases locator_cases spec with ⟨_, _, refused⟩ | ⟨block, line, _, _, refused⟩ |
    ⟨kind, matcher, _, meant⟩
  · cases refused.symm.trans failed
    exact ⟨_, rfl, by simp [Cause.kind]⟩
  · cases refused.symm.trans failed
    exact ⟨_, rfl, by simp [Cause.kind]⟩
  · have refused := TextLocator.ofSpec_eq_error.mp (meant.symm.trans failed)
    exact ⟨_, (Pattern.compile_eq_error.mp refused).2, by simp [Cause.kind]⟩

theorem readTags_eq_error :
    spec.readTags = .error failure ↔
      ∃ problems, Tags.check spec.tags = .error problems ∧ failure = problems.toFailure := by
  rw [readTags]
  cases Tags.check spec.tags <;> simp [Except.mapError, eq_comm]

theorem checkAreas_eq_error :
    spec.checkAreas = .error failure ↔
      spec.searchAreas = [] ∧ failure = (NodeProblem.noArea spec.name).toFailure := by
  rw [checkAreas]
  cases spec.searchAreas <;> simp [eq_comm]

variable [Scalar α]

/-- All parts of a node make sense, each on its own. -/
structure WellFormed (spec : NodeSpec α) : Prop where
  tags : ∃ tags, Tags.check spec.tags = .ok tags
  matcher : ∃ kind matcher, spec.Searches kind matcher ∧
    ∃ pattern, Pattern.compile matcher.regex = .ok pattern
  areas : ∀ area ∈ spec.searchAreas, ∃ rect, AnchoredRect.ofSpec area = .ok rect
  hasArea : spec.searchAreas ≠ []

/-- Some part of a node fails on its own. -/
inductive PartFails (spec : NodeSpec α) : Failure → Prop
  | tags {problems} (refused : Tags.check spec.tags = .error problems) :
      PartFails spec problems.toFailure
  | noMatcher (noBlock : spec.blockText = none) (noLine : spec.lineText = none) :
      PartFails spec (NodeProblem.noMatcher spec.name).toFailure
  | twoMatchers {block line} (hasBlock : spec.blockText = some block)
      (hasLine : spec.lineText = some line) :
      PartFails spec (NodeProblem.twoMatchers spec.name).toFailure
  | pattern {kind matcher failure} (searches : spec.Searches kind matcher)
      (refused : Pattern.compile matcher.regex = .error failure) : PartFails spec failure
  | area {area failure} (member : area ∈ spec.searchAreas)
      (refused : AnchoredRect.ofSpec area = .error failure) : PartFails spec failure
  | noArea (none : spec.searchAreas = []) :
      PartFails spec (NodeProblem.noArea spec.name).toFailure

theorem partFails_of_locator (failed : spec.locator = .error failure) :
    spec.PartFails failure := by
  rcases locator_cases spec with ⟨noBlock, noLine, refused⟩ |
    ⟨block, line, hasBlock, hasLine, refused⟩ | ⟨kind, matcher, searches, meant⟩
  · cases refused.symm.trans failed
    exact .noMatcher noBlock noLine
  · cases refused.symm.trans failed
    exact .twoMatchers hasBlock hasLine
  · exact .pattern searches (TextLocator.ofSpec_eq_error.mp (meant.symm.trans failed))

theorem mem_areaFailures :
    failure ∈ spec.areas.filterMap Failure.ofOutcome? ↔
      ∃ (index : Nat) (area : AreaSpec α) (inner : Failure),
        spec.searchAreas[index]? = some area ∧
        AnchoredRect.ofSpec area = .error inner ∧
        failure = .within ("search area " ++ toString index) inner := by
  rw [areas, List.filterMap_map, List.mem_filterMap]
  simp only [Prod.exists, List.mem_zipIdx_iff_getElem?, Function.comp_apply,
    Failure.ofOutcome?_eq_some, Failure.atPlace_eq_error]
  constructor
  · rintro ⟨area, index, found, inner, refused, told⟩
    exact ⟨index, area, inner, found, refused, told⟩
  · rintro ⟨index, area, inner, found, refused, told⟩
    exact ⟨area, index, found, inner, refused, told⟩

theorem mem_failures :
    failure ∈ spec.failures ↔
      spec.readTags = .error failure ∨ spec.locator = .error failure ∨
        failure ∈ spec.areas.filterMap Failure.ofOutcome? ∨ spec.checkAreas = .error failure := by
  simp only [failures, List.mem_append, Failure.mem_ofOutcome?, or_assoc]

/-- What is told about a node is what its parts tell, with a place at most. -/
theorem exists_partFails (member : failure ∈ spec.failures) :
    ∃ part, spec.PartFails part ∧ ∀ kind, failure.is kind = part.is kind := by
  rcases mem_failures.mp member with tags | locator | areas | missing
  · rcases readTags_eq_error.mp tags with ⟨problems, refused, rfl⟩
    exact ⟨_, .tags refused, fun _ => rfl⟩
  · exact ⟨failure, partFails_of_locator locator, fun _ => rfl⟩
  · rcases mem_areaFailures.mp areas with ⟨index, area, inner, found, refused, rfl⟩
    exact ⟨inner, .area (List.mem_of_getElem? found) refused, fun _ => Failure.is_within _ _ _⟩
  · rcases checkAreas_eq_error.mp missing with ⟨none, rfl⟩
    exact ⟨_, .noArea none, fun _ => rfl⟩

theorem PartFails.exists_mem {part : Failure} (fails : spec.PartFails part) :
    ∃ failure ∈ spec.failures, ∀ kind, failure.is kind = part.is kind := by
  cases fails with
  | tags refused =>
      exact ⟨_, mem_failures.mpr (.inl (readTags_eq_error.mpr ⟨_, refused, rfl⟩)), fun _ => rfl⟩
  | noMatcher noBlock noLine =>
      refine ⟨_, mem_failures.mpr (.inr (.inl ?_)), fun _ => rfl⟩
      rw [locator, noBlock, noLine]
  | twoMatchers hasBlock hasLine =>
      refine ⟨_, mem_failures.mpr (.inr (.inl ?_)), fun _ => rfl⟩
      rw [locator, hasBlock, hasLine]
  | pattern searches refused =>
      refine ⟨_, mem_failures.mpr (.inr (.inl ?_)), fun _ => rfl⟩
      rw [locator_of_searches searches, TextLocator.ofSpec_eq_error.mpr refused]
  | area member refused =>
      rcases List.getElem?_of_mem member with ⟨index, found⟩
      have listed := mem_areaFailures.mpr ⟨index, _, _, found, refused, rfl⟩
      exact ⟨_, mem_failures.mpr (.inr (.inr (.inl listed))), fun _ => Failure.is_within _ _ _⟩
  | noArea none =>
      refine ⟨_, mem_failures.mpr (.inr (.inr (.inr ?_))), fun _ => rfl⟩
      exact checkAreas_eq_error.mpr ⟨none, rfl⟩

theorem failures_eq_nil : spec.failures = [] ↔ ∀ part, ¬spec.PartFails part := by
  constructor
  · intro none part fails
    rcases fails.exists_mem with ⟨failure, member, _⟩
    rw [none] at member
    cases member
  · intro fine
    apply List.eq_nil_iff_forall_not_mem.mpr
    intro failure member
    rcases exists_partFails member with ⟨part, fails, _⟩
    exact fine part fails

theorem wellFormed_iff : spec.WellFormed ↔ ∀ part, ¬spec.PartFails part := by
  constructor
  · rintro ⟨⟨tags, sorted⟩, ⟨kind, matcher, searches, pattern, compiled⟩, areas, hasArea⟩ part fails
    cases fails with
    | tags refused => cases sorted.symm.trans refused
    | noMatcher noBlock noLine =>
        cases kind with
        | block => cases noBlock.symm.trans searches.1
        | line => cases noLine.symm.trans searches.2
    | twoMatchers hasBlock hasLine =>
        cases kind with
        | block => cases hasLine.symm.trans searches.2
        | line => cases hasBlock.symm.trans searches.1
    | pattern other refused =>
        rw [searches.unique other] at compiled
        cases compiled.symm.trans refused
    | area member refused =>
        rcases areas _ member with ⟨rect, accepted⟩
        cases accepted.symm.trans refused
    | noArea none => exact hasArea none
  · intro fine
    refine ⟨?_, ?_, fun area member => ?_, fun none => fine _ (.noArea none)⟩
    · cases sorted : Tags.check spec.tags with
      | ok tags => exact ⟨tags, rfl⟩
      | error problems => exact absurd (.tags sorted) (fine _)
    · rcases locator_cases spec with ⟨noBlock, noLine, _⟩ | ⟨block, line, hasBlock, hasLine, _⟩ |
        ⟨kind, matcher, searches, _⟩
      · exact absurd (.noMatcher noBlock noLine) (fine _)
      · exact absurd (.twoMatchers hasBlock hasLine) (fine _)
      · cases compiled : Pattern.compile matcher.regex with
        | ok pattern => exact ⟨kind, matcher, searches, pattern, compiled⟩
        | error failure => exact absurd (.pattern searches compiled) (fine _)
    · cases compiled : AnchoredRect.ofSpec area with
      | ok rect => exact ⟨rect, rfl⟩
      | error failure => exact absurd (.area member compiled) (fine _)

/-! ### Compiled nodes -/

theorem locator_of_failures (none : spec.failures = []) :
    ∃ locator, spec.locator = .ok locator := by
  cases outcome : spec.locator with
  | ok locator => exact ⟨locator, rfl⟩
  | error failure =>
      have member := mem_failures.mpr (.inr (.inl outcome))
      rw [none] at member
      cases member

/-- If no part fails, the node has all its parts. -/
theorem compile_of_failures (none : spec.failures = []) :
    ∃ locator, spec.locator = .ok locator ∧
      spec.compile = .ok {
        name := spec.name
        areas := spec.areas.filterMap Except.toOption
        locator
        tags := spec.readTags.toOption.getD [] } := by
  rcases locator_of_failures none with ⟨locator, meant⟩
  refine ⟨locator, meant, ?_⟩
  rw [compile, Failure.checkAll_eq_ok.mpr none, meant]
  rfl

theorem compile_eq_error :
    spec.compile = .error failure ↔ Failure.checkAll spec.failures = .error failure := by
  cases checked : Failure.checkAll spec.failures with
  | error collected =>
      rw [compile, checked]
      simp [bind, Except.bind]
  | ok _ =>
      rcases compile_of_failures (Failure.checkAll_eq_ok.mp checked) with ⟨locator, _, compiled⟩
      rw [compiled]
      simp

theorem exists_compile_iff : (∃ node, spec.compile = .ok node) ↔ spec.failures = [] := by
  constructor
  · rintro ⟨node, compiled⟩
    cases checked : Failure.checkAll spec.failures with
    | ok _ => exact Failure.checkAll_eq_ok.mp checked
    | error failure => cases compiled.symm.trans (compile_eq_error.mpr checked)
  · intro none
    rcases compile_of_failures none with ⟨locator, _, compiled⟩
    exact ⟨_, compiled⟩

theorem collected_of_mem (member : failure ∈ spec.failures) : failure.collected = [failure] := by
  rcases mem_failures.mp member with tags | locator | areas | missing
  · rcases readTags_eq_error.mp tags with ⟨problems, _, rfl⟩
    rfl
  · rcases cause_of_locator locator with ⟨leaf, rfl, _⟩
    rfl
  · rcases mem_areaFailures.mp areas with ⟨index, area, inner, _, _, rfl⟩
    rfl
  · rcases checkAreas_eq_error.mp missing with ⟨_, rfl⟩
    rfl

theorem lacksMatcher_notMem : (NodeProblem.lacksMatcher spec.name).toFailure ∉ spec.failures := by
  intro member
  rcases mem_failures.mp member with tags | locator | areas | missing
  · rcases readTags_eq_error.mp tags with ⟨problems, _, told⟩
    cases told
  · rcases cause_of_locator locator with ⟨leaf, told, different⟩
    cases told
    exact different rfl
  · rcases mem_areaFailures.mp areas with ⟨index, area, inner, _, _, told⟩
    cases told
  · rcases checkAreas_eq_error.mp missing with ⟨_, told⟩
    have texts := Cause.incompleteConfig.inj (Failure.cause.inj told)
    have letters := congrArg String.toList texts
    simp at letters

/-- A node that is not compiled tells what is wrong with its parts, and nothing else. -/
theorem collected_of_compile (failed : spec.compile = .error failure) :
    failure.collected = spec.failures :=
  Failure.collected_of_checkAll (compile_eq_error.mp failed) fun _ => collected_of_mem

end NodeSpec

/-! ## Sketches -/

theorem Sketch.exists_ofNodes_iff {α : Type} [Scalar α] {tags : List String}
    {nodes : List (SketchNode α)} :
    (∃ sketch, ofNodes tags nodes = .ok sketch) ↔
      ∃ order, (SketchNode.graph nodes).evaluationOrder = .ok order := by
  rw [ofNodes]
  cases (SketchNode.graph nodes).evaluationOrder with
  | ok order => exact ⟨fun _ => ⟨order, rfl⟩, fun _ => ⟨_, rfl⟩⟩
  | error problem => simp [Except.mapError, bind, Except.bind]

theorem OrderProblem.toFailure_cases (problem : OrderProblem) :
    (∃ leaf, problem.toFailure = .cause leaf) ∨
      ∃ node inner, problem.toFailure =
        .classified .badConfig ("node " ++ Text.quoted node) inner := by
  cases problem with
  | repeatedName | unknownNode | cycle => exact .inl ⟨_, rfl⟩
  | noSuchFeature node other feature => exact .inr ⟨node, _, rfl⟩

namespace SketchSpec

variable {α : Type} [Scalar α] {spec : SketchSpec α} {sketch : Sketch α} {failure : Failure}

/-- The tags and all nodes of a sketch make sense, each on its own. -/
structure WellFormed (spec : SketchSpec α) : Prop where
  tags : ∃ tags, Tags.check spec.tags = .ok tags
  nodes : ∀ node ∈ spec.nodes, node.WellFormed

/-- Some part of a sketch fails on its own. -/
inductive PartFails (spec : SketchSpec α) : Failure → Prop
  | tags {problems} (refused : Tags.check spec.tags = .error problems) :
      PartFails spec problems.toFailure
  | node {node failure} (member : node ∈ spec.nodes) (fails : node.PartFails failure) :
      PartFails spec failure

theorem wellFormed_iff : spec.WellFormed ↔ ∀ part, ¬spec.PartFails part := by
  constructor
  · rintro ⟨⟨tags, sorted⟩, nodes⟩ part fails
    cases fails with
    | tags refused => cases sorted.symm.trans refused
    | node member fails => exact NodeSpec.wellFormed_iff.mp (nodes _ member) part fails
  · intro fine
    refine ⟨?_, fun node member => ?_⟩
    · cases sorted : Tags.check spec.tags with
      | ok tags => exact ⟨tags, rfl⟩
      | error problems => exact absurd (.tags sorted) (fine _)
    · exact NodeSpec.wellFormed_iff.mpr fun part fails => fine part (.node member fails)

theorem mem_failures :
    failure ∈ spec.failures ↔
      (∃ problems, Tags.check spec.tags = .error problems ∧ failure = problems.toFailure) ∨
        ∃ node ∈ spec.nodes, ∃ inner, node.compile = .error inner ∧
          failure = .within ("node " ++ node.name) inner := by
  have tags : spec.readTags = .error failure ↔
      ∃ problems, Tags.check spec.tags = .error problems ∧ failure = problems.toFailure := by
    rw [readTags]
    cases Tags.check spec.tags <;> simp [Except.mapError, eq_comm]
  rw [failures, List.mem_append, Failure.mem_ofOutcome?, tags, compiledNodes, List.filterMap_map,
    List.mem_filterMap]
  simp only [Function.comp_apply, Failure.ofOutcome?_eq_some, Failure.atPlace_eq_error]

/-- Whatever a part tells is among what is told about the sketch. -/
theorem PartFails.exists_mem {part : Failure} (fails : spec.PartFails part) :
    ∃ failure ∈ spec.failures, ∀ kind, part.is kind = true → failure.is kind = true := by
  cases fails with
  | tags refused => exact ⟨_, mem_failures.mpr (.inl ⟨_, refused, rfl⟩), fun _ told => told⟩
  | @node node _ member fails =>
      rcases fails.exists_mem with ⟨told, listed, same⟩
      cases compiled : node.compile with
      | ok compiledNode =>
          rw [NodeSpec.exists_compile_iff.mp ⟨_, compiled⟩] at listed
          cases listed
      | error inner =>
          refine ⟨_, mem_failures.mpr (.inr ⟨node, member, inner, compiled, rfl⟩),
            fun kind counts => ?_⟩
          rw [Failure.is_within]
          apply (Failure.is_of_checkAll (NodeSpec.compile_eq_error.mp compiled) kind).mpr
          exact .inl ⟨told, listed, (same kind).trans counts⟩

theorem failures_eq_nil : spec.failures = [] ↔ spec.WellFormed := by
  rw [wellFormed_iff]
  constructor
  · intro none part fails
    rcases fails.exists_mem with ⟨failure, member, _⟩
    rw [none] at member
    cases member
  · intro fine
    apply List.eq_nil_iff_forall_not_mem.mpr
    intro failure member
    rcases mem_failures.mp member with ⟨problems, refused, _⟩ | ⟨node, declared, inner, failed, _⟩
    · exact fine _ (.tags refused)
    · have none := NodeSpec.failures_eq_nil.mpr fun part fails => fine part (.node declared fails)
      rcases NodeSpec.exists_compile_iff.mpr none with ⟨compiledNode, compiled⟩
      cases compiled.symm.trans failed

theorem compile_of_failures (none : spec.failures = []) :
    ∃ tags, spec.compile = Sketch.ofNodes tags (spec.compiledNodes.filterMap Except.toOption) := by
  rcases (failures_eq_nil.mp none).tags with ⟨tags, sorted⟩
  have read : spec.readTags = .ok tags := Steps.mapError_eq_ok.mpr sorted
  refine ⟨tags, ?_⟩
  rw [compile, Failure.checkAll_eq_ok.mpr none, read]
  rfl

/-- If something is wrong with any part, nothing but that is told. -/
theorem compile_of_not_wellFormed (wrong : ¬spec.WellFormed) :
    ∃ failure, spec.compile = .error failure ∧ Failure.checkAll spec.failures = .error failure := by
  cases checked : Failure.checkAll spec.failures with
  | ok _ => exact absurd (failures_eq_nil.mp (Failure.checkAll_eq_ok.mp checked)) wrong
  | error failure =>
      refine ⟨failure, ?_, rfl⟩
      rw [compile, checked]
      rfl

theorem collected_of_mem (member : failure ∈ spec.failures) : failure.collected = [failure] := by
  rcases mem_failures.mp member with ⟨problems, _, rfl⟩ | ⟨node, _, inner, _, rfl⟩ <;> rfl

/-- What is told about a part is not about the order of the nodes. -/
theorem ne_toFailure_of_mem (member : failure ∈ spec.failures) (problem : OrderProblem) :
    failure ≠ problem.toFailure := by
  intro equal
  rcases problem.toFailure_cases with ⟨leaf, told⟩ | ⟨other, inner, told⟩
  · rcases mem_failures.mp member with ⟨problems, _, rfl⟩ | ⟨node, _, inner, _, rfl⟩
    · cases equal.trans told
    · cases equal.trans told
  · rcases mem_failures.mp member with ⟨problems, _, rfl⟩ | ⟨node, _, inner, _, rfl⟩
    · have places := (Failure.classified.inj (equal.trans told)).2.1
      have letters := congrArg String.toList places
      simp at letters
    · cases equal.trans told

theorem WellFormed.exists_compile (wellFormed : spec.WellFormed) :
    ∀ written ∈ spec.nodes, ∃ node, written.compile = .ok node := by
  intro written member
  apply NodeSpec.exists_compile_iff.mpr
  exact NodeSpec.failures_eq_nil.mpr (NodeSpec.wellFormed_iff.mp (wellFormed.nodes written member))

/-- If every node is compiled on its own, these are the nodes of the sketch. -/
theorem compiledNodes_related
    (fine : ∀ written ∈ spec.nodes, ∃ node, written.compile = .ok node) :
    List.Forall₂ (fun written node => written.compile = .ok node) spec.nodes
      (spec.compiledNodes.filterMap Except.toOption) := by
  rw [compiledNodes]
  generalize spec.nodes = nodes at fine
  induction nodes with
  | nil => exact .nil
  | cons written rest induction =>
      rcases fine written List.mem_cons_self with ⟨node, compiled⟩
      have others := induction fun other member => fine other (List.mem_cons_of_mem _ member)
      rw [List.map_cons, compiled]
      exact .cons compiled others

theorem exists_compile_iff :
    (∃ sketch, spec.compile = .ok sketch) ↔
      spec.WellFormed ∧ ∃ nodes,
        List.Forall₂ (fun written node => written.compile = .ok node) spec.nodes nodes ∧
          ∃ order, (SketchNode.graph nodes).evaluationOrder = .ok order := by
  constructor
  · rintro ⟨sketch, compiled⟩
    have wellFormed : spec.WellFormed := by
      by_contra wrong
      rcases compile_of_not_wellFormed wrong with ⟨failure, failed, _⟩
      cases compiled.symm.trans failed
    rcases compile_of_failures (failures_eq_nil.mpr wellFormed) with ⟨tags, meant⟩
    have ordered := Sketch.exists_ofNodes_iff.mp ⟨sketch, meant.symm.trans compiled⟩
    exact ⟨wellFormed, _, compiledNodes_related wellFormed.exists_compile, ordered⟩
  · rintro ⟨wellFormed, nodes, related, ordered⟩
    rcases compile_of_failures (failures_eq_nil.mpr wellFormed) with ⟨tags, meant⟩
    have unique : Relator.RightUnique fun (written : NodeSpec α) (node : SketchNode α) =>
        written.compile = .ok node := fun _ _ _ first second =>
      Except.ok.inj (first.symm.trans second)
    have same := List.right_unique_forall₂' unique related
      (compiledNodes_related wellFormed.exists_compile)
    rw [meant, ← same]
    exact Sketch.exists_ofNodes_iff.mpr ordered

/-- A sketch is compiled exactly if all its parts make sense and its nodes have an order. If
some parts do not, whatever each of them tells is told, and nothing of the order. -/
theorem compiles_iff_wellFormed (spec : SketchSpec α) :
    ((∃ sketch, spec.compile = .ok sketch) ↔
      spec.WellFormed ∧ ∃ nodes,
        List.Forall₂ (fun written node => written.compile = .ok node) spec.nodes nodes ∧
          ∃ order, (SketchNode.graph nodes).evaluationOrder = .ok order) ∧
      (spec.WellFormed ↔ ∀ part, ¬spec.PartFails part) ∧
      (¬spec.WellFormed → ∃ failure, spec.compile = .error failure ∧
        (∀ part, spec.PartFails part → ∀ kind, part.is kind = true → failure.is kind = true) ∧
        ∀ told ∈ failure.collected, ∀ problem : OrderProblem, told ≠ problem.toFailure) ∧
      ∀ node ∈ spec.nodes, ∀ failure, node.compile = .error failure →
        (NodeProblem.lacksMatcher node.name).toFailure ∉ failure.collected := by
  refine ⟨exists_compile_iff, wellFormed_iff, fun wrong => ?_, fun node _ failure failed => ?_⟩
  · rcases compile_of_not_wellFormed wrong with ⟨failure, failed, checked⟩
    refine ⟨failure, failed, fun part fails kind counts => ?_, fun told member => ?_⟩
    · rcases fails.exists_mem with ⟨own, listed, same⟩
      exact (Failure.is_of_checkAll checked kind).mpr (.inl ⟨own, listed, same kind counts⟩)
    · rw [Failure.collected_of_checkAll checked fun _ => collected_of_mem] at member
      exact ne_toFailure_of_mem member
  · rw [NodeSpec.collected_of_compile failed]
    exact NodeSpec.lacksMatcher_notMem

end SketchSpec

end PageSketch
