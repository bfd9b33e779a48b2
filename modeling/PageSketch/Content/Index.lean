import PageSketch.Content.Page
import PageSketch.Scalar.Binary

/-! # The index of a page

The index has an entry for every block and every line, by number. It answers which
elements meet a rectangle, both taken as the areas between their corners. In which order
it does so depends on how the index is built, and is left to it. -/

namespace PageSketch

/-- Where in a page an element is found, and where on the page it lies. -/
structure IndexEntry (α : Type) where
  block : Nat
  /-- The line within the block; none for the block itself. -/
  line : Option Nat
  bounds : Rect α
deriving DecidableEq

inductive Visit where
  | onward
  | stop
deriving DecidableEq, Repr

variable {α : Type}

namespace Page

def blockEntries (block : Block α) (index : Nat) : List (IndexEntry α) :=
  { block := index, line := none, bounds := block.bounds } ::
    block.lines.zipIdx.map fun (line, lineIndex) =>
      { block := index, line := some lineIndex, bounds := line.bounds }

def entries (page : Page α) : List (IndexEntry α) :=
  page.blocks.zipIdx.flatMap fun (block, index) => blockEntries block index

def element? (page : Page α) (entry : IndexEntry α) : Option (Element α) := do
  let block ← page.blocks[entry.block]?
  match entry.line with
  | none => return .block block
  | some index => return .line (← block.lines[index]?)

variable [Scalar α]

/-- The entries whose bounds meet an area, boundaries included. -/
def hits (page : Page α) (area : Rect α) : List (IndexEntry α) :=
  page.entries.filter fun entry => entry.bounds.envelope.Meets area.envelope

/-- An answer of an index: the entries that meet the area, each once, in any order. -/
def Answers (page : Page α) (area : Rect α) (answer : List (IndexEntry α)) : Prop :=
  answer.Perm (page.hits area)

end Page

/-- How pages are indexed. -/
class SpatialIndex (α : Type) [Scalar α] where
  answer : Page α → Rect α → List (IndexEntry α)
  answers (page : Page α) (area : Rect α) : page.Answers area (answer page area)

/-- Without a tree, the entries that meet an area are listed in the order of the page. -/
instance : SpatialIndex Float where
  answer := Page.hits
  answers page area := .refl (page.hits area)

namespace Page

variable [Scalar α] [SpatialIndex α]

/-- The elements that meet an area, in the order in which the index answers. -/
def meeting (page : Page α) (area : Rect α) : List (Element α) :=
  (SpatialIndex.answer page area).filterMap page.element?

def meetingPlane (page : Page α) : List (Element α) :=
  match (Rect.plane? : Option (Rect α)) with
  | some plane => page.meeting plane
  | none => page.entries.filterMap page.element?

end Page

/-- Visits elements until one visit says to stop. -/
def Element.visitAll {m : Type → Type} [Monad m] (visitor : Element α → m Visit) :
    List (Element α) → m Unit
  | [] => pure ()
  | element :: rest => do
      match ← visitor element with
      | .onward => visitAll visitor rest
      | .stop => pure ()

end PageSketch
