import PageSketch.Content.Line

/-! # Blocks of lines

The text of a block is that of its lines, with a line feed between them. The line
feeds have positions in the text but no place on the page. -/

namespace PageSketch

/-- A group of lines, such as a paragraph or the cell of a table. Its bounds need
not enclose them. -/
structure Block (α : Type) where
  bounds : Rect α
  lines : List (Line α)
deriving DecidableEq

namespace Block

variable {α : Type}

def text (block : Block α) : String := "\n".intercalate (block.lines.map Line.text)

/-- The glyphs of lines with their positions in a text in which the first line
begins at `offset`, and where one byte separates lines. -/
def placedLines (offset : Nat) : List (Line α) → List (Nat × Glyph α)
  | [] => []
  | line :: rest =>
      Glyph.placed offset line.glyphs ++ placedLines (offset + line.byteLength + 1) rest

def placed (block : Block α) : List (Nat × Glyph α) := placedLines 0 block.lines

variable [Scalar α]

/-- The block around lines. Without lines, it lies at the origin. -/
def ofLines (lines : List (Line α)) : Block α where
  bounds := (Rect.unionAll? (lines.map (·.bounds))).getD .zero
  lines

/-- The bounds of the parts of lines in a range of the text in which the first line
begins at `offset`. -/
def rangeParts (start stop offset : Nat) : List (Line α) → List (Rect α)
  | [] => []
  | line :: rest =>
      let final := offset + line.byteLength
      let low := max start offset
      let high := min stop final
      let part? := if low < high then line.rangeBounds? (low - offset) (high - offset) else none
      part?.toList ++ rangeParts start stop (final + 1) rest

def rangeBounds? (block : Block α) (start stop : Nat) : Option (Rect α) :=
  Rect.unionAll? (rangeParts start stop 0 block.lines)

end Block

end PageSketch
