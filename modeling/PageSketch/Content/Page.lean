import PageSketch.Content.Block
import PageSketch.Geometry.ReadingOrder
import PageSketch.PageRange

/-! # Pages and their elements -/

namespace PageSketch

inductive ElementKind where
  | block
  | line
deriving DecidableEq, Repr

def ElementKind.name : ElementKind → String
  | .block => "block"
  | .line => "line"

/-- A block of a page, or a line of one of its blocks. -/
inductive Element (α : Type) where
  | block (group : Block α)
  | line (row : Line α)
deriving DecidableEq

namespace Element

variable {α : Type}

def kind : Element α → ElementKind
  | .block _ => .block
  | .line _ => .line

def bounds : Element α → Rect α
  | .block group => group.bounds
  | .line row => row.bounds

def text : Element α → String
  | .block group => group.text
  | .line row => row.text

def rangeBounds? [Scalar α] (element : Element α) (start stop : Nat) : Option (Rect α) :=
  match element with
  | .block group => group.rangeBounds? start stop
  | .line row => row.rangeBounds? start stop

end Element

structure Page (α : Type) where
  number : PageNumber
  size : Size α
  blocks : List (Block α)
deriving DecidableEq

namespace Page

variable {α : Type}

/-- All blocks and lines, each block before its lines. -/
def elements (page : Page α) : List (Element α) :=
  page.blocks.flatMap fun block => .block block :: block.lines.map .line

def elementsInReadingOrder [Scalar α] (page : Page α) : List (Element α) :=
  sortReadingOrder {} Element.bounds page.elements

end Page

end PageSketch
