import PageSketch.Area.Side
import PageSketch.Spec.Area

/-! # Anchors of edges

An edge gets its coordinate from a source, which is an edge or a corner as
configured, perhaps moved by a fixed distance. -/

namespace PageSketch

/-- A place: fixed on the page, or at an offset from a feature. -/
inductive Placement (Absolute Offset : Type) where
  | absolute (place : Absolute)
  | relative (feature : FeatureRef) (offset : Offset)
deriving DecidableEq

namespace Placement

variable {Absolute Offset AbsoluteSpec OffsetSpec : Type}

/-- The place that a configuration means. An offset that is left out is `zero`. -/
def ofSpec (readAbsolute : AbsoluteSpec → Except Failure Absolute)
    (readOffset : OffsetSpec → Except Failure Offset) (zero : Offset)
    (spec : PlaceSpec AbsoluteSpec OffsetSpec) : Except Failure (Placement Absolute Offset) :=
  match spec.abs, spec.rel with
  | some _, some _ =>
      .error (.cause (.badConfig "absolute and relative positions are mutually exclusive"))
  | none, none =>
      .error (.cause (.incompleteConfig "absolute or relative position required"))
  | some abs, none => (readAbsolute abs).map .absolute
  | none, some rel => do
      let feature ← FeatureRef.named rel.node rel.feature
      let offset ←
        match rel.offset with
        | some offset => Failure.atPlace "offset" (readOffset offset)
        | none => .ok zero
      return .relative feature offset

end Placement

inductive Source (α : Type) where
  | edge (side : Side) (place : Placement (Length α) (Length α))
  | corner (of : Corner) (place : Placement (Point α) (Size α))
deriving DecidableEq

namespace Source

variable {α : Type} [Scalar α]

def ofEdge (side : Side) (spec : EdgeSpec α) : Except Failure (Source α) :=
  Failure.atPlace side.name
    ((Placement.ofSpec LengthSpec.length LengthSpec.length .zero spec).map (.edge side))

def ofCorner (corner : Corner) (spec : CornerSpec α) : Except Failure (Source α) :=
  Failure.atPlace corner.name
    ((Placement.ofSpec PointSpec.point SizeSpec.size .zero spec).map (.corner corner))

def feature? : Source α → Option FeatureRef
  | .edge _ (.relative feature _) => some feature
  | .corner _ (.relative feature _) => some feature
  | .edge _ (.absolute _) => none
  | .corner _ (.absolute _) => none

/-- The coordinate of a source on an axis, with features looked up as needed. -/
def position {m : Type → Type} [Monad m] (lookup : FeatureRef → m (Point α)) (axis : Axis) :
    Source α → m (Length α)
  | .edge _ (.absolute distance) => pure distance
  | .edge _ (.relative feature offset) => do
      let point ← lookup feature
      return axis.coordinate point + offset
  | .corner _ (.absolute point) => pure (axis.coordinate point)
  | .corner _ (.relative feature offset) => do
      let point ← lookup feature
      return axis.coordinate (point.shift offset)

/-- The text behind the name of something relative. -/
def relativeText (feature : FeatureRef) (offset : String) : String :=
  " (feature \"" ++ feature.display ++ "\", offset " ++ offset ++ ")"

def display : Source α → String
  | .edge side (.absolute distance) =>
      if distance.isZero then side.name
      else side.name ++ " (distance " ++ distance.display ++ ")"
  | .edge side (.relative feature offset) => side.name ++ relativeText feature offset.display
  | .corner of (.absolute point) => of.name ++ " (position " ++ point.display ++ ")"
  | .corner of (.relative feature offset) => of.name ++ relativeText feature offset.display

end Source

/-- Where an edge has its coordinate from. -/
structure Anchor (α : Type) where
  source : Source α
  /-- How far the edge lies behind its source, unless it lies on it. -/
  shift : Option (Length α) := none
deriving DecidableEq

namespace Anchor

variable {α : Type} [Scalar α]

def shifted (source : Source α) (offset : Length α) : Anchor α where
  source
  shift := if offset.isZero then none else some offset

def position {m : Type → Type} [Monad m] (lookup : FeatureRef → m (Point α)) (axis : Axis)
    (anchor : Anchor α) : m (Length α) := do
  let base ← anchor.source.position lookup axis
  match anchor.shift with
  | some offset => return base + offset
  | none => return base

def display (anchor : Anchor α) : String :=
  match anchor.shift with
  | some offset => offset.display ++ " from " ++ anchor.source.display
  | none => anchor.source.display

end Anchor

end PageSketch
