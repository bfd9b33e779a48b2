import PageSketch.Geometry.Point

/-! # Rectangles

Rectangles have directed edges: `right` may lie left of `left` and `bottom` above
`top`. A rectangle is normalized when they do not. -/

namespace PageSketch

/-- A rectangle with horizontal and vertical edges. The vertical axis grows downwards. -/
structure Rect (α : Type) where
  left : Length α
  top : Length α
  right : Length α
  bottom : Length α
deriving DecidableEq, Repr

namespace Rect

variable {α : Type} [Scalar α]

instance : BEq (Rect α) :=
  ⟨fun a b => a.left == b.left && a.top == b.top && a.right == b.right && a.bottom == b.bottom⟩

def zero : Rect α := ⟨.zero, .zero, .zero, .zero⟩

def ofExtent (left top width height : Length α) : Rect α :=
  ⟨left, top, left + width, top + height⟩

def IsNormalized (rect : Rect α) : Prop := rect.left ≤ rect.right ∧ rect.top ≤ rect.bottom

instance (rect : Rect α) : Decidable rect.IsNormalized :=
  inferInstanceAs (Decidable (_ ∧ _))

def normalize (rect : Rect α) : Rect α :=
  let (left, right) :=
    if rect.right < rect.left then (rect.right, rect.left) else (rect.left, rect.right)
  let (top, bottom) :=
    if rect.bottom < rect.top then (rect.bottom, rect.top) else (rect.top, rect.bottom)
  ⟨left, top, right, bottom⟩

def width (rect : Rect α) : Length α := rect.right - rect.left

def height (rect : Rect α) : Length α := rect.bottom - rect.top

def size (rect : Rect α) : Size α := ⟨rect.width, rect.height⟩

def center (rect : Rect α) : Point α :=
  ⟨rect.left + rect.width.divide (Scalar.ofNat 2),
    rect.top + rect.height.divide (Scalar.ofNat 2)⟩

def topLeft (rect : Rect α) : Point α := ⟨rect.left, rect.top⟩

def topRight (rect : Rect α) : Point α := ⟨rect.right, rect.top⟩

def bottomLeft (rect : Rect α) : Point α := ⟨rect.left, rect.bottom⟩

def bottomRight (rect : Rect α) : Point α := ⟨rect.right, rect.bottom⟩

def isEmpty (rect : Rect α) : Bool := rect.left == rect.right || rect.top == rect.bottom

/-- The other rectangle is normalized and lies within this one. Edges may touch. -/
def Contains (outer inner : Rect α) : Prop :=
  outer.left ≤ inner.left ∧ inner.left ≤ inner.right ∧ inner.right ≤ outer.right ∧
    outer.top ≤ inner.top ∧ inner.top ≤ inner.bottom ∧ inner.bottom ≤ outer.bottom

instance (outer inner : Rect α) : Decidable (outer.Contains inner) :=
  inferInstanceAs (Decidable (_ ∧ _))

def union (a b : Rect α) : Rect α :=
  ⟨a.left.min b.left, a.top.min b.top, a.right.max b.right, a.bottom.max b.bottom⟩

def unionAll? : List (Rect α) → Option (Rect α)
  | [] => none
  | first :: rest => some (rest.foldl union first)

/-- The rectangle between two opposite corners, with its edges in order. A
coordinate that is undefined gives way to the one of the other corner if that
lies to its right or below it. -/
def envelope (rect : Rect α) : Rect α :=
  ⟨rect.right.min rect.left, rect.bottom.min rect.top, rect.right.max rect.left,
    rect.bottom.max rect.top⟩

/-- Two rectangles share a point, where edges belong to both. -/
def Meets (a b : Rect α) : Prop :=
  a.left ≤ b.right ∧ b.left ≤ a.right ∧ a.top ≤ b.bottom ∧ b.top ≤ a.bottom

instance (a b : Rect α) : Decidable (a.Meets b) :=
  inferInstanceAs (Decidable (_ ∧ _))

def plane? : Option (Rect α) :=
  Scalar.largest?.map fun largest => ⟨⟨-largest⟩, ⟨-largest⟩, ⟨largest⟩, ⟨largest⟩⟩

def approxEq (a b : Rect α) (margin : Length α) : Bool :=
  a.left.approxEq b.left margin && a.top.approxEq b.top margin &&
    a.right.approxEq b.right margin && a.bottom.approxEq b.bottom margin

def display (rect : Rect α) : String :=
  rect.topLeft.display ++ "-" ++ rect.bottomRight.display

/-- Fails unless the rectangle is normalized, so also if a coordinate is undefined. -/
def validate (rect : Rect α) : Except Failure Unit :=
  if rect.IsNormalized then .ok () else .error (.cause (.invalidRect rect.display))

end Rect

end PageSketch
