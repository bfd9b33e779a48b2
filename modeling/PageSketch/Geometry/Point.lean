import PageSketch.Geometry.LengthText

/-! # Points and sizes -/

namespace PageSketch

/-- A place on a page, measured from its top left corner. -/
structure Point (α : Type) where
  left : Length α
  top : Length α
deriving DecidableEq, Repr

/-- An extent or an offset. -/
structure Size (α : Type) where
  width : Length α
  height : Length α
deriving DecidableEq, Repr

variable {α : Type} [Scalar α]

namespace Size

def zero : Size α := ⟨.zero, .zero⟩

def display (size : Size α) : String :=
  "(" ++ size.width.display ++ ", " ++ size.height.display ++ ")"

end Size

namespace Point

def origin : Point α := ⟨.zero, .zero⟩

def shift (point : Point α) (offset : Size α) : Point α :=
  ⟨point.left + offset.width, point.top + offset.height⟩

def approxEq (a b : Point α) (margin : Length α) : Bool :=
  a.left.approxEq b.left margin && a.top.approxEq b.top margin

def display (point : Point α) : String :=
  "(" ++ point.left.display ++ ", " ++ point.top.display ++ ")"

end Point

end PageSketch
