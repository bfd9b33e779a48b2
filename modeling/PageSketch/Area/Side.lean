import PageSketch.Geometry.Point

/-! # Sides and corners of rectangles -/

namespace PageSketch

/-- The direction in which a coordinate is measured. -/
inductive Axis where
  | horizontal
  | vertical
deriving DecidableEq, Repr

namespace Axis

variable {α : Type}

def coordinate (point : Point α) : Axis → Length α
  | .horizontal => point.left
  | .vertical => point.top

def component (size : Size α) : Axis → Length α
  | .horizontal => size.width
  | .vertical => size.height

end Axis

/-- The corners of a rectangle, clockwise. -/
inductive Corner where
  | topLeft
  | topRight
  | bottomRight
  | bottomLeft
deriving DecidableEq, Repr

namespace Corner

def all : List Corner := [.topLeft, .topRight, .bottomRight, .bottomLeft]

def name : Corner → String
  | .topLeft => "top_left"
  | .topRight => "top_right"
  | .bottomRight => "bottom_right"
  | .bottomLeft => "bottom_left"

end Corner

/-- The sides of a rectangle, clockwise. -/
inductive Side where
  | top
  | right
  | bottom
  | left
deriving DecidableEq, Repr

namespace Side

def all : List Side := [.top, .right, .bottom, .left]

def name : Side → String
  | .top => "top"
  | .right => "right"
  | .bottom => "bottom"
  | .left => "left"

def axis : Side → Axis
  | .top | .bottom => .vertical
  | .right | .left => .horizontal

def opposite : Side → Side
  | .top => .bottom
  | .right => .left
  | .bottom => .top
  | .left => .right

def corners : Side → List Corner
  | .top => [.topLeft, .topRight]
  | .right => [.topRight, .bottomRight]
  | .bottom => [.bottomRight, .bottomLeft]
  | .left => [.bottomLeft, .topLeft]

/-- The side lies before its opposite on its axis. -/
def isLow : Side → Bool
  | .top | .left => true
  | .right | .bottom => false

/-- How far a side lies behind its opposite in a rectangle of the given extent. -/
def displacement {α : Type} [Scalar α] (side : Side) (extent : Length α) : Length α :=
  if side.isLow then -extent else extent

theorem opposite_opposite (side : Side) : side.opposite.opposite = side := by
  cases side <;> rfl

theorem mem_all (side : Side) : side ∈ all := by
  cases side <;> decide

end Side

end PageSketch
