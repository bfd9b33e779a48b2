import Mathlib.Data.List.Forall2
import PageSketch.Area.AnchoredRect
import PageSketch.Proofs.Outcomes

/-! # What an area gives

An area is compiled if every part of it makes sense on its own and if then every side has
exactly one candidate for its anchor. The candidates of a side are the places that are given
on it and, if the extent along its axis is given, the displaced places on the opposite side. -/

namespace PageSketch

namespace Axis

/-- The side of an axis that comes first. -/
def low : Axis → Side
  | .vertical => .top
  | .horizontal => .left

/-- The side of an axis that comes last. -/
def high : Axis → Side
  | .vertical => .bottom
  | .horizontal => .right

@[simp] theorem axis_low (axis : Axis) : axis.low.axis = axis := by cases axis <;> rfl

@[simp] theorem axis_high (axis : Axis) : axis.high.axis = axis := by cases axis <;> rfl

@[simp] theorem opposite_low (axis : Axis) : axis.low.opposite = axis.high := by
  cases axis <;> rfl

@[simp] theorem opposite_high (axis : Axis) : axis.high.opposite = axis.low := by
  cases axis <;> rfl

end Axis

/-- An edge or a corner as it is written. -/
inductive GivenPlace (α : Type) where
  | edge (side : Side) (spec : EdgeSpec α)
  | corner (of : Corner) (spec : CornerSpec α)

/-- What a place means. -/
def GivenPlace.source {α : Type} [Scalar α] : GivenPlace α → Except Failure (Source α)
  | .edge side spec => Source.ofEdge side spec
  | .corner of spec => Source.ofCorner of spec

namespace AreaSpec

variable {α : Type} {spec : AreaSpec α} {parts : AreaParts α} {side : Side}

/-! ## Places -/

/-- An edge and two corners, as far as they are given. -/
def places (spec : AreaSpec α) (side : Side) (first second : Corner) : List (GivenPlace α) :=
  (spec.edge side).toList.map (.edge side) ++
    [first, second].filterMap fun corner => (spec.corner corner).map (.corner corner)

/-- The places that are given on a side. -/
def given (spec : AreaSpec α) : Side → List (GivenPlace α)
  | .top => spec.places .top .topLeft .topRight
  | .right => spec.places .right .topRight .bottomRight
  | .bottom => spec.places .bottom .bottomRight .bottomLeft
  | .left => spec.places .left .bottomLeft .topLeft

theorem given_eq (spec : AreaSpec α) (side : Side) :
    spec.given side = (spec.edge side).toList.map (.edge side) ++
      side.corners.filterMap fun corner => (spec.corner corner).map (.corner corner) := by
  cases side <;> rfl

theorem mem_given {place : GivenPlace α} (member : place ∈ spec.given side) :
    (∃ written, spec.edge side = some written ∧ place = .edge side written) ∨
      ∃ corner written, spec.corner corner = some written ∧ place = .corner corner written := by
  rw [given_eq, List.mem_append, List.mem_map, List.mem_filterMap] at member
  rcases member with ⟨written, given, rfl⟩ | ⟨corner, _, found⟩
  · exact .inl ⟨written, Option.mem_toList.mp given, rfl⟩
  · rcases Option.map_eq_some_iff.mp found with ⟨written, given, rfl⟩
    exact .inr ⟨corner, written, given, rfl⟩

variable [Scalar α]

/-! ## Reading -/

/-- Every edge, corner and dimension that is written makes sense on its own. -/
structure Converts (spec : AreaSpec α) : Prop where
  edges : ∀ side written, spec.edge side = some written →
    ∃ source, Source.ofEdge side written = .ok source
  corners : ∀ corner written, spec.corner corner = some written →
    ∃ source, Source.ofCorner corner written = .ok source
  extents : ∀ axis written, spec.extent axis = some written →
    ∃ extent, written.length = .ok extent

theorem bind_ofOutcome?_eq_none {β : Type} {outcome? : Option (Except Failure β)} :
    outcome?.bind Failure.ofOutcome? = none ↔
      ∀ outcome, outcome? = some outcome → ∃ value, outcome = .ok value := by
  cases outcome? with
  | none => simp
  | some outcome => cases outcome <;> simp [Failure.ofOutcome?]

theorem partFailures_eq_nil : spec.partFailures = [] ↔ spec.Converts := by
  have axes : ∀ axis : Axis, axis ∈ [Axis.vertical, .horizontal] := by
    intro axis
    cases axis <;> decide
  have corners : ∀ corner : Corner, corner ∈ Corner.all := by
    intro corner
    cases corner <;> decide
  simp only [partFailures, List.append_eq_nil_iff, List.filterMap_eq_nil_iff,
    bind_ofOutcome?_eq_none, readEdge, readCorner, readExtent, Option.map_eq_some_iff]
  constructor
  · rintro ⟨⟨edges, vertices⟩, extents⟩
    refine ⟨fun side written given => ?_, fun corner written given => ?_,
      fun axis written given => ?_⟩
    · exact edges side side.mem_all _ ⟨written, given, rfl⟩
    · exact vertices corner (corners corner) _ ⟨written, given, rfl⟩
    · rcases extents axis (axes axis) _ ⟨written, given, rfl⟩ with ⟨extent, read⟩
      exact ⟨extent, Failure.atPlace_eq_ok.mp read⟩
  · rintro ⟨edges, vertices, extents⟩
    refine ⟨⟨?_, ?_⟩, ?_⟩
    · rintro side _ _ ⟨written, given, rfl⟩
      exact edges side written given
    · rintro corner _ _ ⟨written, given, rfl⟩
      exact vertices corner written given
    · rintro axis _ _ ⟨written, given, rfl⟩
      rcases extents axis written given with ⟨extent, read⟩
      exact ⟨extent, Failure.atPlace_eq_ok.mpr read⟩

/-! ## Candidates -/

/-- The sources on a side. -/
def sources (spec : AreaSpec α) (side : Side) : List (Source α) :=
  (spec.given side).filterMap fun place => place.source.toOption

/-- The length of a dimension. -/
def extent? (spec : AreaSpec α) (axis : Axis) : Option (Length α) :=
  (spec.extent axis).bind fun written => written.length.toOption

/-- The ways in which a side gets its coordinate: from the sources on it, and from those on
the opposite side if it is known how far away that is. -/
def candidates (spec : AreaSpec α) (side : Side) : List (Anchor α) :=
  ((spec.sources side).map fun source => { source := source }) ++
    match spec.extent? side.axis with
    | some extent =>
        (spec.sources side.opposite).map fun source =>
          .shifted source (side.displacement extent)
    | none => []

/-- If all parts make sense, every place that is given has a source. -/
theorem Converts.sources (converts : spec.Converts) (side : Side) :
    List.Forall₂ (fun place source => place.source = .ok source)
      (spec.given side) (spec.sources side) := by
  have known : ∀ place ∈ spec.given side, ∃ source, place.source = .ok source := by
    intro place member
    rcases mem_given member with ⟨written, given, rfl⟩ | ⟨corner, written, given, rfl⟩
    · exact converts.edges side written given
    · exact converts.corners corner written given
  rw [AreaSpec.sources]
  generalize spec.given side = places at known ⊢
  induction places with
  | nil => exact .nil
  | cons place rest induction =>
      rcases known place List.mem_cons_self with ⟨source, read⟩
      have later := induction fun other member => known other (List.mem_cons_of_mem place member)
      rw [List.filterMap_cons, read]
      exact .cons read later

theorem Converts.extent? (converts : spec.Converts) {axis : Axis} {written : LengthSpec α}
    (given : spec.extent axis = some written) :
    ∃ extent, written.length = .ok extent ∧ spec.extent? axis = some extent := by
  rcases converts.extents axis written given with ⟨extent, read⟩
  exact ⟨extent, read, by simp [AreaSpec.extent?, given, read, Except.toOption]⟩

theorem onSide_of_parts (read : spec.parts = .ok parts) (side : Side) :
    parts.onSide side = spec.sources side := by
  rcases Steps.bind_eq_ok.mp read with ⟨_, _, equal⟩
  cases equal
  rw [AreaParts.onSide, sources, given_eq, List.filterMap_append, List.filterMap_filterMap]
  congr 1
  · simp only [readEdge]
    cases spec.edge side with
    | none => rfl
    | some written =>
        cases read : Source.ofEdge side written <;>
          simp [GivenPlace.source, read, Except.toOption]
  · congr 1
    funext corner
    simp only [readCorner]
    cases spec.corner corner with
    | none => rfl
    | some written => rfl

theorem extent_of_parts (read : spec.parts = .ok parts) (axis : Axis) :
    parts.extent axis = spec.extent? axis := by
  rcases Steps.bind_eq_ok.mp read with ⟨_, _, equal⟩
  cases equal
  simp only [readExtent, extent?]
  cases spec.extent axis with
  | none => rfl
  | some written =>
      cases read : written.length <;>
        simp [read, Failure.atPlace, Except.mapError, Except.toOption]

theorem anchors_of_parts (read : spec.parts = .ok parts) (side : Side) :
    parts.anchors side = spec.candidates side := by
  rw [AreaParts.anchors, onSide_of_parts read, onSide_of_parts read, extent_of_parts read]
  rfl

theorem exists_parts_iff : (∃ parts, spec.parts = .ok parts) ↔ spec.Converts := by
  rw [← partFailures_eq_nil, ← Failure.checkAll_eq_ok]
  constructor
  · rintro ⟨parts, read⟩
    rcases Steps.bind_eq_ok.mp read with ⟨_, checked, _⟩
    exact checked
  · intro checked
    exact ⟨_, Steps.bind_eq_ok.mpr ⟨(), checked, rfl⟩⟩

end AreaSpec

/-! ## Anchors -/

namespace AnchoredRect

variable {α : Type} [Scalar α] {spec : AreaSpec α} {parts : AreaParts α} {rect : AnchoredRect α}
  {side : Side} {failure : Failure}

theorem anchor_eq_ok {anchor : Anchor α} :
    parts.anchor side = .ok anchor ↔ parts.anchors side = [anchor] := by
  rw [AreaParts.anchor]
  match parts.anchors side with
  | [] => simp
  | [only] => simp
  | first :: second :: rest => simp

/-- Why sides have no anchor. -/
def anchorFailures (parts : AreaParts α) : List Failure :=
  Side.all.filterMap fun side =>
    Failure.ofOutcome? ((parts.anchor side).mapError EdgeProblem.toFailure)

theorem anchorFailures_eq_nil :
    anchorFailures parts = [] ↔ ∀ side, ∃ anchor, parts.anchor side = .ok anchor := by
  rw [anchorFailures, List.filterMap_eq_nil_iff]
  constructor
  · intro none side
    have fine := none side side.mem_all
    cases outcome : parts.anchor side with
    | ok anchor => exact ⟨anchor, rfl⟩
    | error problem => simp [outcome, Except.mapError, Failure.ofOutcome?] at fine
  · intro known side _
    rcases known side with ⟨anchor, picked⟩
    simp [picked, Except.mapError, Failure.ofOutcome?]

theorem ofParts_of_anchors (known : ∀ side, parts.anchor side = .ok (rect.anchor side)) :
    ofParts parts = .ok rect := by
  have fine : anchorFailures parts = [] :=
    anchorFailures_eq_nil.mpr fun side => ⟨_, known side⟩
  change (Failure.checkAll (anchorFailures parts) >>= _) = _
  rw [fine]
  simp only [known]
  rfl

/-- Either every side has an anchor, or it is told why some have none. The last resort, a
failure that tells no side, is never taken. -/
theorem ofParts_cases (parts : AreaParts α) :
    (∃ rect, ofParts parts = .ok rect ∧ ∀ side, parts.anchor side = .ok (rect.anchor side)) ∨
      ∃ failure, ofParts parts = .error failure ∧
        Failure.checkAll (anchorFailures parts) = .error failure := by
  cases checked : Failure.checkAll (anchorFailures parts) with
  | error failure =>
      refine .inr ⟨failure, ?_, rfl⟩
      change (Failure.checkAll (anchorFailures parts) >>= _) = _
      rw [checked]
      rfl
  | ok _ =>
      have known := anchorFailures_eq_nil.mp (Failure.checkAll_eq_ok.mp checked)
      choose anchor picked using known
      let rect : AnchoredRect α := ⟨anchor .top, anchor .right, anchor .bottom, anchor .left⟩
      have sides : ∀ side, parts.anchor side = .ok (rect.anchor side) := by
        intro side
        cases side <;> exact picked _
      exact .inl ⟨rect, ofParts_of_anchors sides, sides⟩

theorem ofParts_eq_ok :
    ofParts parts = .ok rect ↔ ∀ side, parts.anchors side = [rect.anchor side] := by
  simp only [← anchor_eq_ok]
  constructor
  · intro built
    rcases ofParts_cases parts with ⟨other, succeeded, known⟩ | ⟨failure, failed, _⟩
    · rw [built] at succeeded
      cases succeeded
      exact known
    · rw [built] at failed
      cases failed
  · exact ofParts_of_anchors

theorem ofParts_eq_error :
    ofParts parts = .error failure ↔
      Failure.checkAll (anchorFailures parts) = .error failure := by
  constructor
  · intro failed
    rcases ofParts_cases parts with ⟨rect, succeeded, _⟩ | ⟨other, stopped, checked⟩
    · rw [failed] at succeeded
      cases succeeded
    · rw [failed] at stopped
      cases stopped
      exact checked
  · intro checked
    change (Failure.checkAll (anchorFailures parts) >>= _) = _
    rw [checked]
    rfl

theorem ofSpec_of_parts (read : spec.parts = .ok parts) : ofSpec spec = ofParts parts := by
  rw [ofSpec, read]
  rfl

/-- An area is compiled exactly if all parts make sense and every side has one candidate,
which becomes its anchor. -/
theorem ofSpec_eq_ok :
    ofSpec spec = .ok rect ↔
      spec.Converts ∧ ∀ side, spec.candidates side = [rect.anchor side] := by
  constructor
  · intro compiled
    rcases Steps.bind_eq_ok.mp compiled with ⟨parts, read, built⟩
    refine ⟨AreaSpec.exists_parts_iff.mp ⟨parts, read⟩, fun side => ?_⟩
    rw [← AreaSpec.anchors_of_parts read]
    exact ofParts_eq_ok.mp built side
  · rintro ⟨converts, only⟩
    rcases AreaSpec.exists_parts_iff.mpr converts with ⟨parts, read⟩
    rw [ofSpec_of_parts read, ofParts_eq_ok]
    intro side
    rw [AreaSpec.anchors_of_parts read]
    exact only side

end AnchoredRect

end PageSketch
