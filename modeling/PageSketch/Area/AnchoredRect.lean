import PageSketch.Area.Anchor

/-! # Anchored rectangles

An area is given by edges, corners and dimensions. It is well determined if they
give every edge exactly one anchor: the edge itself, a corner on it, or, if the
extent along its axis is given, the opposite edge or a corner on that. An area
that is well determined becomes a rectangle as soon as the features are known
on which its anchors depend. -/

namespace PageSketch

/-- The configured edges, corners and dimensions of an area. -/
structure AreaParts (α : Type) where
  edge : Side → Option (Source α)
  corner : Corner → Option (Source α)
  extent : Axis → Option (Length α)

inductive EdgeProblem where
  | missing (side : Side)
  | conflicting (side : Side) (anchors : List String)
deriving DecidableEq, Repr

namespace EdgeProblem

def toFailure : EdgeProblem → Failure
  | .missing side =>
      .cause (.incompleteConfig ("no position specified for " ++ Text.quoted side.name))
  | .conflicting side anchors =>
      .cause (.badConfig
        ("conflicting position sources for " ++ Text.quoted side.name ++ ": "
          ++ Text.quotedList anchors))

end EdgeProblem

namespace AreaSpec

variable {α : Type} [Scalar α]

def edge (spec : AreaSpec α) : Side → Option (EdgeSpec α)
  | .top => spec.top
  | .right => spec.right
  | .bottom => spec.bottom
  | .left => spec.left

def corner (spec : AreaSpec α) : Corner → Option (CornerSpec α)
  | .topLeft => spec.topLeft
  | .topRight => spec.topRight
  | .bottomRight => spec.bottomRight
  | .bottomLeft => spec.bottomLeft

def extent (spec : AreaSpec α) : Axis → Option (LengthSpec α)
  | .horizontal => spec.width
  | .vertical => spec.height

def extentName : Axis → String
  | .horizontal => "width"
  | .vertical => "height"

def readEdge (spec : AreaSpec α) (side : Side) : Option (Except Failure (Source α)) :=
  (spec.edge side).map (Source.ofEdge side)

def readCorner (spec : AreaSpec α) (corner : Corner) : Option (Except Failure (Source α)) :=
  (spec.corner corner).map (Source.ofCorner corner)

def readExtent (spec : AreaSpec α) (axis : Axis) : Option (Except Failure (Length α)) :=
  (spec.extent axis).map fun extent => Failure.atPlace (extentName axis) extent.length

/-- The failures of all parts, each on its own: edges, corners, then dimensions. -/
def partFailures (spec : AreaSpec α) : List Failure :=
  (Side.all.filterMap fun side => (spec.readEdge side).bind Failure.ofOutcome?)
    ++ (Corner.all.filterMap fun corner => (spec.readCorner corner).bind Failure.ofOutcome?)
    ++ ([Axis.vertical, .horizontal].filterMap fun axis =>
      (spec.readExtent axis).bind Failure.ofOutcome?)

def parts (spec : AreaSpec α) : Except Failure (AreaParts α) := do
  Failure.checkAll spec.partFailures
  return {
    edge := fun side => (spec.readEdge side).bind Except.toOption
    corner := fun corner => (spec.readCorner corner).bind Except.toOption
    extent := fun axis => (spec.readExtent axis).bind Except.toOption }

end AreaSpec

namespace AreaParts

variable {α : Type} [Scalar α]

/-- The sources that lie on a side: the edge, then its corners. -/
def onSide (parts : AreaParts α) (side : Side) : List (Source α) :=
  (parts.edge side).toList ++ side.corners.filterMap parts.corner

def anchors (parts : AreaParts α) (side : Side) : List (Anchor α) :=
  ((parts.onSide side).map fun source => { source := source }) ++
    match parts.extent side.axis with
    | some extent =>
        (parts.onSide side.opposite).map fun source =>
          .shifted source (side.displacement extent)
    | none => []

def anchor (parts : AreaParts α) (side : Side) : Except EdgeProblem (Anchor α) :=
  match parts.anchors side with
  | [] => .error (.missing side)
  | [anchor] => .ok anchor
  | anchors => .error (.conflicting side (anchors.map Anchor.display))

end AreaParts

/-- A rectangle whose edges have one anchor each. -/
structure AnchoredRect (α : Type) where
  top : Anchor α
  right : Anchor α
  bottom : Anchor α
  left : Anchor α
deriving DecidableEq

namespace AnchoredRect

variable {α : Type} [Scalar α]

def anchor (rect : AnchoredRect α) : Side → Anchor α
  | .top => rect.top
  | .right => rect.right
  | .bottom => rect.bottom
  | .left => rect.left

/-! ## Compilation -/

/-- What is told if an edge is missing although no edge has a problem. -/
def edgesMissing : Failure := .cause (.incompleteConfig "rectangle edges missing")

/-- The rectangle in which every side has its only anchor. The problems of all sides
are told together. -/
def ofParts (parts : AreaParts α) : Except Failure (AnchoredRect α) := do
  let pick (side : Side) : Except Failure (Anchor α) :=
    (parts.anchor side).mapError EdgeProblem.toFailure
  Failure.checkAll (Side.all.filterMap fun side => Failure.ofOutcome? (pick side))
  let picked (side : Side) : Option (Anchor α) := (pick side).toOption
  match picked .top, picked .right, picked .bottom, picked .left with
  | some top, some right, some bottom, some left => return { top, right, bottom, left }
  | _, _, _, _ => throw edgesMissing

def ofSpec (spec : AreaSpec α) : Except Failure (AnchoredRect α) := do
  ofParts (← spec.parts)

/-! ## Resolution -/

def coordinate {m : Type → Type} [Monad m] (rect : AnchoredRect α)
    (lookup : FeatureRef → m (Point α)) (side : Side) : m (Length α) :=
  (rect.anchor side).position lookup side.axis

def discover (rect : AnchoredRect α) : Discovery Unit :=
  Side.all.forM fun side => discard (rect.coordinate Discovery.lookup side)

/-- The features needed to resolve the rectangle, in order. -/
def required (rect : AnchoredRect α) : List FeatureRef := Discovery.features rect.discover

/-- The rectangle with the coordinates of all sides, in whatever order they are. If
some sides cannot be evaluated, it is told why for each of them. -/
def evaluate (rect : AnchoredRect α) (lookup : FeatureLookup α) : Except Failure (Rect α) := do
  let coordinate (side : Side) : Except Failure (Length α) :=
    Failure.atPlace side.name (rect.coordinate lookup side)
  Failure.checkAll (Side.all.filterMap fun side => Failure.ofOutcome? (coordinate side))
  return {
    left := ← coordinate .left
    top := ← coordinate .top
    right := ← coordinate .right
    bottom := ← coordinate .bottom }

/-- The normalized rectangle for given features. It is refused if a coordinate
is undefined, as it cannot be normalized then. -/
def resolve (rect : AnchoredRect α) (lookup : FeatureLookup α) : Except Failure (Rect α) := do
  let resolved := (← rect.evaluate lookup).normalize
  Failure.atPlace "flexrect" resolved.validate
  return resolved

def display (rect : AnchoredRect α) : String :=
  "[top=" ++ rect.top.display ++ ", right=" ++ rect.right.display
    ++ ", bottom=" ++ rect.bottom.display ++ ", left=" ++ rect.left.display ++ "]"

end AnchoredRect

end PageSketch
