import PageSketch.Proofs.PageAnalysis

/-! # Failures of the analysis

Whatever a compiled sketch looks up on a page is there, and a node without a place only
makes areas be passed over. So the analysis of a page can only fail because some edge of an
area has an undefined coordinate. -/

namespace PageSketch

namespace Sketch

variable {α : Type} [Scalar α] [SpatialIndex α] {spec : SketchSpec α} {sketch : Sketch α}
  {page : Page α} {early : PageReport α} {node : SketchNode α}

/-- What an area asks for when its node is evaluated is a corner of a node in the report. -/
theorem Evaluates.answers_asked (executable : sketch.Executable)
    (evaluates : sketch.Evaluates page early node) {area : AnchoredRect α}
    (member : area ∈ node.areas) :
    ∀ ref ∈ area.asked early.lookup, early.Answers ref := by
  intro ref asked
  have required := AnchoredRect.mem_asked.mp asked
  exact evaluates.answers executable ref (SketchNode.mem_references.mpr ⟨area, member, required⟩)

/-- The analysis comes to an area that has an edge with an undefined coordinate. -/
structure ReachesUndefined (sketch : Sketch α) (page : Page α) (early : PageReport α)
    (node : SketchNode α) (index : Nat) (raw : Rect α) : Prop where
  evaluates : sketch.Evaluates page early node
  evaluated : ∃ area, node.areas[index]? = some area ∧ area.evaluate early.lookup = .ok raw
  undefined : ∃ side, Scalar.reading (raw.side side).points = .undefined

/-- A node that cannot be searched for has an area whose edges have no order. -/
theorem Evaluates.undefined_of_search [Scalar.Ordered α] (executable : sketch.Executable)
    (evaluates : sketch.Evaluates page early node) {failure : Failure}
    (failed : node.search page early.lookup = .error failure) :
    ∃ index raw, sketch.ReachesUndefined page early node index raw ∧
      failure = .within ("search area " ++ toString index) (AnchoredRect.unordered raw) := by
  rcases SketchNode.resolveAreas_eq_error (SketchNode.search_eq_error.mp failed) with
    ⟨index, area, inner, found, resolved, known, rfl⟩
  -- No lookup hides behind the failure: what the area requires has been answered.
  have answered : ∀ ref ∈ area.required, early.Answers ref := by
    intro ref required
    apply evaluates.answers executable
    exact SketchNode.mem_references.mpr ⟨area, List.mem_of_getElem? found, required⟩
  rcases PageReport.unordered_of_resolve answered resolved known with
    ⟨raw, evaluated, unordered, rfl⟩
  exact ⟨index, raw, ⟨evaluates, ⟨area, found, evaluated⟩, Rect.exists_undefined.mp unordered⟩,
    rfl⟩

theorem ReachesUndefined.search_ne_ok [Scalar.Ordered α] {index : Nat} {raw : Rect α}
    (reaches : sketch.ReachesUndefined page early node index raw) (result : NodeResult α) :
    node.search page early.lookup ≠ .ok result := by
  intro searched
  rcases reaches.evaluated with ⟨area, found, evaluated⟩
  have unordered := Rect.exists_undefined.mpr reaches.undefined
  have refused : area.resolve early.lookup = .error (AnchoredRect.unordered raw) :=
    AnchoredRect.resolve_eq_error.mpr (.inr ⟨raw, evaluated, unordered, rfl⟩)
  -- Only areas that lack a position are passed over, and this one has coordinates.
  have unknown := (SketchNode.resolveAreas_eq_ok (SketchNode.search_eq_ok.mp searched).2.1).2
  have positions := unknown area (List.mem_of_getElem? found) _ refused
  simp [AnchoredRect.unordered, Cause.kind] at positions

theorem ReachesUndefined.analyzePage_error [Scalar.Ordered α] {index : Nat} {raw : Rect α}
    (reaches : sketch.ReachesUndefined page early node index raw) :
    ∃ failure, sketch.analyzePage page = .error failure := by
  rcases reaches.evaluates with ⟨before, after, split, reports⟩
  cases analyzed : sketch.analyzePage page with
  | error failure => exact ⟨failure, rfl⟩
  | ok report =>
      rw [analyzePage, split, List.foldlM_append] at analyzed
      rcases Steps.bind_eq_ok.mp analyzed with ⟨reached, first, rest⟩
      have same : reached = early := Except.ok.inj (first.symm.trans reports)
      rw [List.foldlM_cons] at rest
      rcases Steps.bind_eq_ok.mp rest with ⟨next, stepped, _⟩
      rcases analyzeNode_eq_ok.mp stepped with ⟨result, searched, _⟩
      exact absurd (same ▸ searched) (reaches.search_ne_ok result)

/-- The analysis of a page fails exactly if it comes to an area with an edge whose coordinate
is undefined, and the failure tells that area. Nothing is looked up but corners of nodes that
are in the report, and the search for text does not fail. -/
theorem analyzePage_fails_only_undefined [Scalar.Ordered α]
    (compiled : spec.compile = .ok sketch) (page : Page α) :
    (∀ failure, sketch.analyzePage page = .error failure →
      failure.kind = .invalidRect ∧ failure.is .positionUnknown = false ∧
        failure.is .featureUnavailable = false ∧
        ∃ early node index raw, sketch.ReachesUndefined page early node index raw ∧
          failure = .within ("search for node " ++ Text.quoted node.name ++ " on page "
            ++ toString page.number.val)
            (.within ("search area " ++ toString index) (AnchoredRect.unordered raw))) ∧
      (∀ early node index raw, sketch.ReachesUndefined page early node index raw →
        ∃ failure, sketch.analyzePage page = .error failure) ∧
      ∀ early node, sketch.Evaluates page early node →
        (∀ area ∈ node.areas, ∀ ref ∈ area.asked early.lookup,
          (∃ result, early.find? ref.node = some result) ∧
            ref.feature ∈ [.topLeft, .topRight, .bottomLeft, .bottomRight]) ∧
          ∀ area, node.locator.visitMeeting page area = .ok (node.locator.locate? page area) := by
  have executable := executable_of_compile compiled
  refine ⟨fun failure failed => ?_, fun early node index raw reaches => reaches.analyzePage_error,
    fun early node evaluates => ⟨fun area member ref asked => ?_, fun area => ?_⟩⟩
  · rcases evaluates_of_analyzePage_error failed with ⟨early, node, inner, evaluates, stopped, rfl⟩
    rcases evaluates.undefined_of_search executable stopped with ⟨index, raw, reaches, rfl⟩
    refine ⟨rfl, ?_, ?_, early, node, index, raw, reaches, rfl⟩
    · simp [AnchoredRect.unordered, Cause.kind]
    · simp [AnchoredRect.unordered, Cause.kind]
  · rcases evaluates.answers_asked executable member ref asked with ⟨found, corner⟩
    exact ⟨found, Feature.isPoint_iff.mp corner⟩
  · exact TextLocator.visitMeeting_eq node.locator page area

/-- On a page with a label whose end is undefined, the area of the amount is undefined. -/
theorem analyzePage_fails_only_undefined_invoice :
    Invoice.spec.compile = .ok Invoice.sketch ∧
      ∃ failure, Invoice.sketch.analyzePage (Invoice.page (0 / 0)) = .error failure ∧
        failure.kind = .invalidRect := by
  have stopped : (Invoice.sketch.analyzePage (Invoice.page (0 / 0))).isOk = false := by
    decide +kernel
  have causes := analyzePage_fails_only_undefined Invoice.compile_spec (Invoice.page (0 / 0))
  cases analyzed : Invoice.sketch.analyzePage (Invoice.page (0 / 0)) with
  | error failure => exact ⟨Invoice.compile_spec, failure, rfl, (causes.1 failure analyzed).1⟩
  | ok report =>
      rw [analyzed] at stopped
      cases stopped

end Sketch

end PageSketch
