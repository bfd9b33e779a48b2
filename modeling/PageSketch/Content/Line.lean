import PageSketch.Geometry.Rect
import PageSketch.Text.Bytes

/-! # Lines of text

A line is a row of glyphs. Positions in its text are counted in bytes, and a glyph
stands at the position of its first byte. -/

namespace PageSketch

structure Glyph (α : Type) where
  character : Char
  bounds : Rect α
deriving DecidableEq

namespace Glyph

variable {α : Type}

def characters (glyphs : List (Glyph α)) : List Char := glyphs.map (·.character)

/-- Glyphs with their positions in a text in which the first stands at `offset`. -/
def placed (offset : Nat) : List (Glyph α) → List (Nat × Glyph α)
  | [] => []
  | glyph :: rest => (offset, glyph) :: placed (offset + glyph.character.utf8Size) rest

/-- The bounds of the placed glyphs that stand from `start` to before `stop`. -/
def boundsWithin? [Scalar α] (start stop : Nat) (placed : List (Nat × Glyph α)) :
    Option (Rect α) :=
  Rect.unionAll? ((placed.filter fun (offset, _) => start ≤ offset ∧ offset < stop).map
    fun (_, glyph) => glyph.bounds)

end Glyph

/-- A row of glyphs. Its bounds need not enclose them. -/
structure Line (α : Type) where
  bounds : Rect α
  glyphs : List (Glyph α)
deriving DecidableEq

namespace Line

variable {α : Type}

def characters (line : Line α) : List Char := Glyph.characters line.glyphs

def text (line : Line α) : String := String.ofList line.characters

def byteLength (line : Line α) : Nat := Text.byteLength line.characters

def placed (line : Line α) : List (Nat × Glyph α) := Glyph.placed 0 line.glyphs

variable [Scalar α]

/-- The line around glyphs. Without glyphs, it lies at the origin. -/
def ofGlyphs (glyphs : List (Glyph α)) : Line α where
  bounds := (Rect.unionAll? (glyphs.map (·.bounds))).getD .zero
  glyphs

/-- The width of each of `count` equal parts of a rectangle. -/
def stepWidth (bounds : Rect α) (count : Nat) : Length α :=
  if count = 0 then .zero else bounds.width.divide (Scalar.ofNat count)

def part (bounds : Rect α) (step : Length α) (index : Nat) : Rect α :=
  let left := bounds.left + step.scale (Scalar.ofNat index)
  ⟨left, bounds.top, left + step, bounds.bottom⟩

/-- The line with the characters of a text spread evenly over its width. -/
def ofText (bounds : Rect α) (text : String) : Line α where
  bounds
  glyphs :=
    let step := stepWidth bounds text.length
    text.toList.zipIdx.map fun (character, index) =>
      { character, bounds := part bounds step index }

def rangeBounds? (line : Line α) (start stop : Nat) : Option (Rect α) :=
  Glyph.boundsWithin? start stop line.placed

end Line

end PageSketch
