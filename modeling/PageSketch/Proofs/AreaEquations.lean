import Mathlib.Algebra.Order.Group.Unbundled.Abs
import Mathlib.Tactic.Ring
import PageSketch.Proofs.AreaDependencies
import PageSketch.Proofs.AreaSources
import PageSketch.Scalar.Exact

/-! # The equations of an area

On each axis, an area gives an equation for either side: it has the coordinate of the place
that is given on it, or it is as far from the opposite side as the extent says. Without
rounding, the area is resolved to the rectangle between the solutions. -/

namespace PageSketch

theorem FeatureRef.eq_of_named {node : String} {feature : Feature} {ref : FeatureRef}
    (named : FeatureRef.named node feature = .ok ref) : ref = ⟨node, feature⟩ := by
  rw [FeatureRef.named] at named
  split at named
  · cases named
  · cases named
    rfl

theorem Length.add_zero (length : Length Rat) : length + .zero = length := by
  have sum : length.points + ((0 : Nat) : Rat) = length.points := by simp
  exact congrArg Length.mk sum

theorem Length.isZero_iff {length : Length Rat} : length.isZero = true ↔ length = .zero := by
  rw [Length.isZero, Length.mk.injEq, beq_iff_eq]
  rfl

theorem Axis.coordinate_shift (axis : Axis) (point : Point Rat) (offset : Size Rat) :
    axis.coordinate (point.shift offset) = axis.coordinate point + axis.component offset := by
  cases axis <;> rfl

theorem Axis.displacement_low (axis : Axis) (extent : Length Rat) :
    axis.low.displacement extent = -extent := by
  cases axis <;> rfl

theorem Axis.displacement_high (axis : Axis) (extent : Length Rat) :
    axis.high.displacement extent = extent := by
  cases axis <;> rfl

/-! ## Places -/

section

variable {AbsoluteSpec OffsetSpec Absolute Offset : Type}
  {readAbsolute : AbsoluteSpec → Except Failure Absolute} {along : Absolute → Length Rat}
  {readOffset : OffsetSpec → Except Failure Offset} {component : Offset → Length Rat}
  {zero : Offset} {spec : PlaceSpec AbsoluteSpec OffsetSpec} {place : Placement Absolute Offset}
  {lookup : FeatureLookup Rat} {axis : Axis} {coordinate : Length Rat}

theorem Placement.ofSpec_eq_ok
    (read : ofSpec readAbsolute readOffset zero spec = .ok place) :
    (∃ written value, spec = .absolute written ∧ readAbsolute written = .ok value ∧
        place = .absolute value) ∨
      (∃ node feature, spec = .relative node feature none ∧
        place = .relative ⟨node, feature⟩ zero) ∨
      ∃ node feature written offset, spec = .relative node feature (some written) ∧
        readOffset written = .ok offset ∧ place = .relative ⟨node, feature⟩ offset := by
  rcases spec with ⟨_ | written, _ | ⟨node, feature, _ | written⟩⟩
  · cases read
  · rcases Steps.bind_eq_ok.mp read with ⟨ref, named, equal⟩
    cases equal
    cases FeatureRef.eq_of_named named
    exact .inr (.inl ⟨node, feature, rfl, rfl⟩)
  · rcases Steps.bind_eq_ok.mp read with ⟨ref, named, rest⟩
    rcases Steps.bind_eq_ok.mp rest with ⟨offset, known, equal⟩
    cases equal
    cases FeatureRef.eq_of_named named
    have meant := Failure.atPlace_eq_ok.mp known
    exact .inr (.inr ⟨node, feature, written, offset, rfl, meant, rfl⟩)
  · rcases Steps.map_eq_ok.mp read with ⟨value, known, equal⟩
    exact .inl ⟨written, value, rfl, known, equal.symm⟩
  · cases read
  · cases read

/-- Where a place is on an axis: `along` is where absolute places are on it, and `component`
how far offsets go along it. -/
inductive PlaceSpec.At (readAbsolute : AbsoluteSpec → Except Failure Absolute)
    (along : Absolute → Length Rat) (readOffset : OffsetSpec → Except Failure Offset)
    (component : Offset → Length Rat) (lookup : FeatureLookup Rat) (axis : Axis) :
    PlaceSpec AbsoluteSpec OffsetSpec → Rat → Prop where
  | absolute {written value} (read : readAbsolute written = .ok value) :
      At readAbsolute along readOffset component lookup axis (.absolute written)
        (along value).points
  | feature {node feature point} (found : lookup ⟨node, feature⟩ = .ok point) :
      At readAbsolute along readOffset component lookup axis (.relative node feature none)
        (axis.coordinate point).points
  | offset {node feature written point offset} (found : lookup ⟨node, feature⟩ = .ok point)
      (read : readOffset written = .ok offset) :
      At readAbsolute along readOffset component lookup axis
        (.relative node feature (some written))
        ((axis.coordinate point).points + (component offset).points)

/-- The coordinate that a place has when features are looked up. -/
def Placement.Gives (along : Absolute → Length Rat) (component : Offset → Length Rat)
    (lookup : FeatureLookup Rat) (axis : Axis) (coordinate : Length Rat) :
    Placement Absolute Offset → Prop
  | .absolute value => along value = coordinate
  | .relative ref offset =>
      ∃ point, lookup ref = .ok point ∧ axis.coordinate point + component offset = coordinate

theorem PlaceSpec.at_of_gives
    (read : Placement.ofSpec readAbsolute readOffset zero spec = .ok place)
    (none : component zero = .zero) (gives : place.Gives along component lookup axis coordinate) :
    spec.At readAbsolute along readOffset component lookup axis coordinate.points := by
  rcases Placement.ofSpec_eq_ok read with ⟨written, value, rfl, known, rfl⟩ |
    ⟨node, feature, rfl, rfl⟩ | ⟨node, feature, written, offset, rfl, known, rfl⟩
  · cases gives
    exact .absolute known
  · rcases gives with ⟨point, found, rfl⟩
    rw [none, Length.add_zero]
    exact .feature found
  · rcases gives with ⟨point, found, rfl⟩
    exact .offset found known

end

namespace GivenPlace

variable {lookup : FeatureLookup Rat} {axis : Axis} {place : GivenPlace Rat}
  {source : Source Rat} {coordinate : Length Rat}

/-- Where an edge or a corner is on an axis. -/
def At (lookup : FeatureLookup Rat) (axis : Axis) : GivenPlace Rat → Rat → Prop
  | .edge _ spec => spec.At LengthSpec.length id LengthSpec.length id lookup axis
  | .corner _ spec =>
      spec.At PointSpec.point (axis.coordinate ·) SizeSpec.size (axis.component ·) lookup axis

/-- The coordinate of a source is that of the place from which it comes. -/
theorem at_of_position (read : place.source = .ok source)
    (evaluated : source.position lookup axis = .ok coordinate) :
    place.At lookup axis coordinate.points := by
  cases place with
  | edge side spec =>
      rcases Steps.map_eq_ok.mp (Failure.atPlace_eq_ok.mp read) with ⟨placed, meant, rfl⟩
      apply PlaceSpec.at_of_gives meant rfl
      cases placed with
      | absolute value => exact Except.ok.inj evaluated
      | relative ref offset => exact Steps.map_eq_ok.mp evaluated
  | corner of spec =>
      rcases Steps.map_eq_ok.mp (Failure.atPlace_eq_ok.mp read) with ⟨placed, meant, rfl⟩
      have none : axis.component (.zero : Size Rat) = .zero := by cases axis <;> rfl
      apply PlaceSpec.at_of_gives meant none
      cases placed with
      | absolute value => exact Except.ok.inj evaluated
      | relative ref offset =>
          simp only [Placement.Gives, ← Axis.coordinate_shift]
          exact Steps.map_eq_ok.mp evaluated

end GivenPlace

/-! ## Solutions -/

/-- The coordinates of the two sides of an axis, lower side first, solve the equations that
the area gives for them. -/
inductive AreaSpec.Solves (spec : AreaSpec Rat) (lookup : FeatureLookup Rat) (axis : Axis) :
    Rat → Rat → Prop where
  | sides {first last low high} (free : spec.extent axis = none)
      (lower : spec.given axis.low = [first]) (upper : spec.given axis.high = [last])
      (atLow : first.At lookup axis low) (atHigh : last.At lookup axis high) :
      Solves spec lookup axis low high
  | onward {place written extent low} (fixed : spec.extent axis = some written)
      (read : written.length = .ok extent)
      (lower : spec.given axis.low = [place]) (upper : spec.given axis.high = [])
      (atLow : place.At lookup axis low) :
      Solves spec lookup axis low (low + extent.points)
  | backward {place written extent high} (fixed : spec.extent axis = some written)
      (read : written.length = .ok extent)
      (lower : spec.given axis.low = []) (upper : spec.given axis.high = [place])
      (atHigh : place.At lookup axis high) :
      Solves spec lookup axis (high - extent.points) high

namespace AreaSpec

variable {spec : AreaSpec Rat} {lookup : FeatureLookup Rat} {axis : Axis} {low high : Rat}

/-- Solutions are as far apart as the extent says. -/
theorem Solves.extent (solves : spec.Solves lookup axis low high) {written : LengthSpec Rat}
    {extent : Length Rat} (fixed : spec.extent axis = some written)
    (read : written.length = .ok extent) : high - low = extent.points := by
  cases solves with
  | sides free => rw [free] at fixed; cases fixed
  | onward given known =>
      rw [given] at fixed
      cases fixed
      rw [read] at known
      cases known
      ring
  | backward given known =>
      rw [given] at fixed
      cases fixed
      rw [read] at known
      cases known
      ring

end AreaSpec

/-! ## Anchors -/

namespace Anchor

variable (lookup : FeatureLookup Rat) (axis : Axis) (source : Source Rat)

theorem position_of_source :
    Anchor.position lookup axis { source := source } = source.position lookup axis :=
  bind_pure _

/-- Without rounding, it makes no difference that a shift by nothing is left out. -/
theorem position_shifted (offset : Length Rat) :
    (shifted source offset).position lookup axis =
      (· + offset) <$> source.position lookup axis := by
  rw [shifted, position]
  cases nothing : offset.isZero with
  | false => rfl
  | true =>
      rw [Length.isZero_iff.mp nothing]
      cases source.position lookup axis with
      | error failure => rfl
      | ok base => exact congrArg Except.ok (Length.add_zero base).symm

end Anchor

namespace AreaSpec

variable {spec : AreaSpec Rat} {lookup : FeatureLookup Rat} {axis : Axis} {side : Side}
  {source : Source Rat} {lower upper : Anchor Rat} {coordinate low high : Length Rat}

theorem Converts.given_eq_nil (converts : spec.Converts) (none : spec.sources side = []) :
    spec.given side = [] := by
  have related := converts.sources side
  rw [none] at related
  exact List.forall₂_nil_right_iff.mp related

/-- The only source on a side comes from the only place there. -/
theorem Converts.given_eq_singleton (converts : spec.Converts)
    (only : spec.sources side = [source])
    (evaluated : source.position lookup axis = .ok coordinate) :
    ∃ place, spec.given side = [place] ∧ place.At lookup axis coordinate.points := by
  have related := converts.sources side
  rw [only] at related
  rcases List.forall₂_cons_right_iff.mp related with ⟨place, rest, read, others, equal⟩
  rw [List.forall₂_nil_right_iff.mp others] at equal
  exact ⟨place, equal, GivenPlace.at_of_position read evaluated⟩

theorem candidates_of_extent {extent : Length Rat} (along : side.axis = axis)
    (fixed : spec.extent? axis = some extent) :
    spec.candidates side = ((spec.sources side).map fun source => { source := source }) ++
      (spec.sources side.opposite).map fun source =>
        .shifted source (side.displacement extent) := by
  rw [candidates, along, fixed]

theorem candidates_of_no_extent (along : side.axis = axis) (free : spec.extent axis = none) :
    spec.candidates side = (spec.sources side).map fun source => { source := source } := by
  rw [candidates, along, AreaSpec.extent?, free]
  exact List.append_nil _

/-- Coordinates that the anchors of two opposite sides have solve the equations. -/
theorem solves_of_positions (converts : spec.Converts)
    (first : spec.candidates axis.low = [lower]) (last : spec.candidates axis.high = [upper])
    (atLow : lower.position lookup axis = .ok low)
    (atHigh : upper.position lookup axis = .ok high) :
    spec.Solves lookup axis low.points high.points := by
  cases written? : spec.extent axis with
  | none =>
      rw [candidates_of_no_extent axis.axis_low written?] at first
      rw [candidates_of_no_extent axis.axis_high written?] at last
      rcases List.map_eq_singleton_iff.mp first with ⟨source, here, rfl⟩
      rcases List.map_eq_singleton_iff.mp last with ⟨other, there, rfl⟩
      rw [Anchor.position_of_source] at atLow atHigh
      rcases converts.given_eq_singleton here atLow with ⟨first, onLow, begins⟩
      rcases converts.given_eq_singleton there atHigh with ⟨last, onHigh, ends⟩
      exact .sides written? onLow onHigh begins ends
  | some written =>
      rcases converts.extent? written? with ⟨extent, known, fixed⟩
      rw [candidates_of_extent axis.axis_low fixed, axis.opposite_low] at first
      rw [candidates_of_extent axis.axis_high fixed, axis.opposite_high] at last
      rcases List.append_eq_singleton_iff.mp first with ⟨none, there⟩ | ⟨here, none⟩
      -- The only place is on the upper side, from which the lower side gets its coordinate.
      · rcases List.map_eq_singleton_iff.mp there with ⟨source, only, rfl⟩
        have free := List.map_eq_nil_iff.mp none
        rw [free, only] at last
        cases last
        rw [Anchor.position_of_source] at atHigh
        rcases converts.given_eq_singleton only atHigh with ⟨place, onHigh, ends⟩
        rw [Anchor.position_shifted, atHigh] at atLow
        cases atLow
        have below : (high + axis.low.displacement extent).points =
            high.points - extent.points := by
          rw [Axis.displacement_low, sub_eq_add_neg]
          rfl
        rw [below]
        exact .backward written? known (converts.given_eq_nil free) onHigh ends
      -- The only place is on the lower side.
      · rcases List.map_eq_singleton_iff.mp here with ⟨source, only, rfl⟩
        have free := List.map_eq_nil_iff.mp none
        rw [free, only] at last
        cases last
        rw [Anchor.position_of_source] at atLow
        rcases converts.given_eq_singleton only atLow with ⟨place, onLow, begins⟩
        rw [Anchor.position_shifted, atLow] at atHigh
        cases atHigh
        have above : (low + axis.high.displacement extent).points =
            low.points + extent.points := by
          rw [Axis.displacement_high]
          rfl
        rw [above]
        exact .onward written? known onLow (converts.given_eq_nil free) begins

end AreaSpec

/-! ## Resolution -/

namespace Rect

/-- Normalizing puts the sides of each axis in order. -/
theorem normalize_sides (rect : Rect Rat) (axis : Axis) :
    (rect.normalize.side axis.low).points =
        min (rect.side axis.low).points (rect.side axis.high).points ∧
      (rect.normalize.side axis.high).points =
        max (rect.side axis.low).points (rect.side axis.high).points := by
  have sorted : ∀ low high : Length Rat,
      (if high < low then (high, low) else (low, high)).1.points = min low.points high.points ∧
        (if high < low then (high, low) else (low, high)).2.points =
          max low.points high.points := by
    intro low high
    split
    · next swapped =>
        have before : high.points ≤ low.points := le_of_lt swapped
        exact ⟨(min_eq_right before).symm, (max_eq_left before).symm⟩
    · next kept =>
        have before : low.points ≤ high.points := not_lt.mp kept
        exact ⟨(min_eq_left before).symm, (max_eq_right before).symm⟩
  cases axis with
  | horizontal => exact sorted rect.left rect.right
  | vertical => exact sorted rect.top rect.bottom

theorem isDefined_exact (rect : Rect Rat) : rect.IsDefined := fun _ => nofun

end Rect

namespace AnchoredRect

variable {spec : AreaSpec Rat} {rect : AnchoredRect Rat} {lookup : FeatureLookup Rat}

/-- The equations of an area that has been compiled have a solution, and the area is
resolved to the rectangle between its coordinates, as large as the extents say. -/
theorem resolve_solves (compiled : ofSpec spec = .ok rect)
    (known : ∀ ref ∈ rect.required, ∃ point, lookup ref = .ok point) :
    ∃ resolved, rect.resolve lookup = .ok resolved ∧ resolved.validate = .ok () ∧
      ∀ axis, ∃ low high, spec.Solves lookup axis low high ∧
        (resolved.side axis.low).points = min low high ∧
        (resolved.side axis.high).points = max low high ∧
        ∀ written extent, spec.extent axis = some written → written.length = .ok extent →
          (resolved.side axis.high).points - (resolved.side axis.low).points =
            |extent.points| := by
  rcases ofSpec_eq_ok.mp compiled with ⟨converts, only⟩
  rcases evaluate_isOk_iff.mpr known with ⟨raw, evaluated⟩
  have coordinates := evaluate_eq_ok.mp evaluated
  have normalized := Rect.isNormalized_normalize.mpr raw.isDefined_exact
  refine ⟨raw.normalize, resolve_eq_ok.mpr ⟨raw, evaluated, rfl, normalized⟩, if_pos normalized,
    fun axis => ?_⟩
  have atLow := coordinates axis.low
  have atHigh := coordinates axis.high
  rw [coordinate, axis.axis_low] at atLow
  rw [coordinate, axis.axis_high] at atHigh
  have solves :=
    AreaSpec.solves_of_positions converts (only axis.low) (only axis.high) atLow atHigh
  rcases raw.normalize_sides axis with ⟨smaller, larger⟩
  refine ⟨_, _, solves, smaller, larger, fun written extent fixed read => ?_⟩
  rw [smaller, larger, max_sub_min_eq_abs, solves.extent fixed read]

end AnchoredRect

/-! ## A column left of a title -/

namespace TitleColumn

/-- The column ends ten points right of the title's left edge and goes back from there. -/
def spec : AreaSpec Rat where
  topLeft := some (.relative "title" .bottomLeft (some { width := some (.ofUnit .pt 10) }))
  width := some (.ofUnit .pt (-3))
  bottom := some (.absolute (.ofUnit .pt 100))

def rect : AnchoredRect Rat :=
  let corner : Source Rat := .corner .topLeft (.relative ⟨"title", .bottomLeft⟩ ⟨⟨10⟩, ⟨0⟩⟩)
  ⟨⟨corner, none⟩, ⟨corner, some ⟨-3⟩⟩, ⟨.edge .bottom (.absolute ⟨100⟩), none⟩, ⟨corner, none⟩⟩

/-- The title is the only node with a place. -/
def lookup : FeatureLookup Rat := fun ref =>
  if ref = ⟨"title", .bottomLeft⟩ then .ok ⟨⟨20⟩, ⟨40⟩⟩
  else .error (.cause (.positionUnknown ref.node))

theorem compiles : AnchoredRect.ofSpec spec = .ok rect := by
  have value : (AnchoredRect.ofSpec spec).toOption = some rect := by decide +kernel
  cases compiled : AnchoredRect.ofSpec spec with
  | error failure =>
      rw [compiled] at value
      cases value
  | ok other =>
      rw [compiled] at value
      exact congrArg Except.ok (Option.some.inj value)

theorem required : rect.required = [⟨"title", .bottomLeft⟩] := by
  decide +kernel

end TitleColumn

namespace AnchoredRect

theorem resolve_solves_titleColumn :
    ∃ resolved, ofSpec TitleColumn.spec = .ok TitleColumn.rect ∧
      (∀ ref ∈ TitleColumn.rect.required, ∃ point, TitleColumn.lookup ref = .ok point) ∧
      TitleColumn.rect.resolve TitleColumn.lookup = .ok resolved ∧
      resolved = ⟨⟨27⟩, ⟨40⟩, ⟨30⟩, ⟨100⟩⟩ ∧
      ∃ low high, TitleColumn.spec.Solves TitleColumn.lookup .horizontal low high ∧
        resolved.left.points = min low high ∧ resolved.right.points = max low high := by
  have known : ∀ ref ∈ TitleColumn.rect.required,
      ∃ point, TitleColumn.lookup ref = .ok point := by
    rw [TitleColumn.required]
    intro ref member
    rw [List.mem_singleton.mp member]
    exact ⟨_, rfl⟩
  rcases resolve_solves TitleColumn.compiles known with ⟨resolved, succeeded, _, equations⟩
  rcases equations .horizontal with ⟨low, high, solves, left, right, _⟩
  have value : (TitleColumn.rect.resolve TitleColumn.lookup).toOption =
      some ⟨⟨27⟩, ⟨40⟩, ⟨30⟩, ⟨100⟩⟩ := by
    decide +kernel
  rw [succeeded] at value
  exact ⟨resolved, TitleColumn.compiles, known, succeeded, Option.some.inj value, low, high,
    solves, left, right⟩

end AnchoredRect

end PageSketch
