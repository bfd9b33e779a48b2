import PageSketch.Proofs.AreaDependencies
import PageSketch.Proofs.EvaluationOrder
import PageSketch.Proofs.TextSearch
import PageSketch.Sketch.Node

/-! # The search for a node

An area is passed over exactly if it cannot be resolved because a position is unknown.
What is found depends only on what the lookup says of the features that the areas of
the node require. -/

namespace PageSketch

namespace SketchNode

variable {α : Type} [Scalar α] {node : SketchNode α} {lookup : FeatureLookup α}
  {area : AnchoredRect α}

/-! ## Areas -/

theorem resolveArea_eq_ok {index : Nat} {place? : Option (Rect α)} :
    resolveArea lookup area index = .ok place? ↔
      place? = (area.resolve lookup).toOption ∧
        ∀ failure, area.resolve lookup = .error failure → failure.is .positionUnknown = true := by
  rw [resolveArea]
  cases resolved : area.resolve lookup with
  | ok rect => simp [Except.toOption, @eq_comm _ place?]
  | error failure =>
      cases unknown : failure.is .positionUnknown with
      | true => simp [Except.toOption, unknown, @eq_comm _ place?]
      | false => simp [unknown]

theorem resolveArea_eq_error {index : Nat} {failure : Failure} :
    resolveArea lookup area index = .error failure ↔
      ∃ inner, area.resolve lookup = .error inner ∧ inner.is .positionUnknown = false ∧
        failure = .within ("search area " ++ toString index) inner := by
  rw [resolveArea]
  cases resolved : area.resolve lookup with
  | ok rect => simp
  | error inner =>
      cases unknown : inner.is .positionUnknown with
      | true => simp [unknown]
      | false => simp [unknown, @eq_comm _ failure]

theorem filterMap_of_resolved {numbered : List (AnchoredRect α × Nat)}
    {places : List (Option (Rect α))}
    (resolved : List.Forall₂ (fun (area, index) place? =>
      resolveArea lookup area index = .ok place?) numbered places) :
    places.filterMap id =
      (numbered.map Prod.fst).filterMap fun area => (area.resolve lookup).toOption := by
  induction resolved with
  | nil => rfl
  | cons here _ induction =>
      rw [List.map_cons, List.filterMap_cons, List.filterMap_cons, induction,
        (resolveArea_eq_ok.mp here).1]
      rfl

/-- Areas that can be resolved are listed in order, and the others lack a position. -/
theorem resolveAreas_eq_ok {areas : List (Rect α)}
    (succeeded : node.resolveAreas lookup = .ok areas) :
    areas = node.areas.filterMap (fun area => (area.resolve lookup).toOption) ∧
      ∀ area ∈ node.areas, ∀ failure, area.resolve lookup = .error failure →
        failure.is .positionUnknown = true := by
  rcases Steps.bind_eq_ok.mp succeeded with ⟨places, mapped, equal⟩
  cases equal
  have resolved := Steps.mapM_eq_ok.mp mapped
  constructor
  · rw [filterMap_of_resolved resolved, List.zipIdx_map_fst]
  · intro area member failure failed
    rcases List.getElem?_of_mem member with ⟨index, found⟩
    have numbered : (area, index) ∈ node.areas.zipIdx :=
      List.mk_mem_zipIdx_iff_getElem?.mpr found
    rcases Steps.step_of_mapM mapped numbered with ⟨place?, here⟩
    exact (resolveArea_eq_ok.mp here).2 failure failed

/-- A search that fails has come to an area that fails for another reason. -/
theorem resolveAreas_eq_error {failure : Failure}
    (failed : node.resolveAreas lookup = .error failure) :
    ∃ (index : Nat) (area : AnchoredRect α) (inner : Failure),
      node.areas[index]? = some area ∧ area.resolve lookup = .error inner ∧
        inner.is .positionUnknown = false ∧
        failure = .within ("search area " ++ toString index) inner := by
  rcases Steps.bind_eq_error.mp failed with stopped | ⟨places, _, impossible⟩
  · rcases Steps.mapM_eq_error stopped with ⟨⟨area, index⟩, member, here⟩
    rcases resolveArea_eq_error.mp here with ⟨inner, resolved, known, equal⟩
    have found := List.mk_mem_zipIdx_iff_getElem?.mp member
    exact ⟨index, area, inner, found, resolved, known, equal⟩
  · cases impossible

theorem resolveAreas_congr {first second : FeatureLookup α}
    (agree : ∀ ref ∈ node.references, first ref = second ref) :
    node.resolveAreas first = node.resolveAreas second := by
  rw [resolveAreas, resolveAreas]
  congr 1
  apply Steps.mapM_congr
  rintro ⟨area, index⟩ member
  have listed : area ∈ node.areas :=
    List.mem_of_getElem? (List.mk_mem_zipIdx_iff_getElem?.mp member)
  have same : area.resolve first = area.resolve second :=
    AnchoredRect.resolve_congr fun ref required =>
      agree ref (mem_references.mpr ⟨area, listed, required⟩)
  change resolveArea first area index = resolveArea second area index
  rw [resolveArea, resolveArea, same]

/-! ## Nodes -/

variable [SpatialIndex α] {page : Page α}

theorem search_eq_ok {result : NodeResult α} :
    node.search page lookup = .ok result ↔
      result.node = node ∧ node.resolveAreas lookup = .ok result.areas ∧
        result.located = result.areas.findSome? (node.locator.locate? page) := by
  rw [search, Steps.bind_eq_ok]
  constructor
  · rintro ⟨areas, resolved, equal⟩
    cases equal
    exact ⟨rfl, resolved, rfl⟩
  · rintro ⟨rfl, resolved, found⟩
    refine ⟨result.areas, resolved, ?_⟩
    rw [← found]
    rfl

/-- What is found out about a node comes from an element in one of its areas. -/
theorem exists_locateIn?_of_search {result : NodeResult α} {located : Located α}
    (searched : node.search page lookup = .ok result) (found : result.located = some located) :
    ∃ area ∈ result.areas, ∃ element ∈ page.elements,
      node.locator.locateIn? area element = some located := by
  rw [(search_eq_ok.mp searched).2.2] at found
  rcases List.exists_of_findSome?_eq_some found with ⟨area, listed, here⟩
  exact ⟨area, listed, TextLocator.exists_locateIn?_of_locate? here⟩

theorem search_eq_error {failure : Failure} :
    node.search page lookup = .error failure ↔ node.resolveAreas lookup = .error failure := by
  rw [search, Steps.bind_eq_error]
  constructor
  · rintro (failed | ⟨areas, _, impossible⟩)
    · exact failed
    · cases impossible
  · exact .inl

theorem search_congr {first second : FeatureLookup α}
    (agree : ∀ ref ∈ node.references, first ref = second ref) :
    node.search page first = node.search page second := by
  rw [search, search, resolveAreas_congr agree]

end SketchNode

end PageSketch
