import PageSketch.Content.Page
import PageSketch.Proofs.RectUnion

/-! # Ranges of text

The bounds of a range of the text are the union of the boxes of the glyphs that stand in it,
also where the range goes over several lines of a block. -/

namespace PageSketch

namespace Glyph

variable {α : Type}

/-- The placed glyphs that stand from `start` to before `stop`. -/
def within (start stop : Nat) (placed : List (Nat × Glyph α)) : List (Glyph α) :=
  (placed.filter fun (offset, _) => start ≤ offset ∧ offset < stop).map Prod.snd

def boxes (glyphs : List (Glyph α)) : List (Rect α) := glyphs.map (·.bounds)

theorem within_append (start stop : Nat) (first second : List (Nat × Glyph α)) :
    within start stop (first ++ second) = within start stop first ++ within start stop second := by
  rw [within, List.filter_append, List.map_append, within, within]

theorem boundsWithin?_eq [Scalar α] (start stop : Nat) (placed : List (Nat × Glyph α)) :
    boundsWithin? start stop placed = Rect.unionAll? (boxes (within start stop placed)) := by
  rw [boundsWithin?, boxes, within, List.map_map]
  rfl

theorem placed_add (offset start : Nat) (glyphs : List (Glyph α)) :
    placed (offset + start) glyphs = (placed start glyphs).map (Prod.map (offset + ·) id) := by
  induction glyphs generalizing start with
  | nil => rfl
  | cons glyph rest induction =>
      rw [placed, placed, List.map_cons, Nat.add_assoc, induction]
      rfl

theorem lt_of_mem_placed {offset start : Nat} {glyph : Glyph α} {glyphs : List (Glyph α)}
    (member : (offset, glyph) ∈ placed start glyphs) :
    offset < start + Text.byteLength (characters glyphs) := by
  induction glyphs generalizing start with
  | nil => cases member
  | cons first rest induction =>
      rw [characters, List.map_cons, Text.byteLength_cons, ← Nat.add_assoc]
      rcases List.mem_cons.mp member with here | later
      · cases here
        have positive := glyph.character.utf8Size_pos
        omega
      · exact induction later

theorem mem_of_mem_placed {offset start : Nat} {glyph : Glyph α} {glyphs : List (Glyph α)}
    (member : (offset, glyph) ∈ placed start glyphs) : glyph ∈ glyphs := by
  induction glyphs generalizing start with
  | nil => cases member
  | cons first rest induction =>
      rcases List.mem_cons.mp member with here | later
      · cases here
        exact List.mem_cons_self
      · exact List.mem_cons_of_mem first (induction later)

end Glyph

namespace Line

variable {α : Type}

/-- The glyphs in a range of a text are found by that part of the range which lies in the line,
counted from where the line begins. -/
theorem within_placed (line : Line α) (start stop offset : Nat) :
    Glyph.within start stop (Glyph.placed offset line.glyphs) =
      if max start offset < min stop (offset + line.byteLength) then
        Glyph.within (max start offset - offset) (min stop (offset + line.byteLength) - offset)
          line.placed
      else [] := by
  have shifted := Glyph.placed_add offset 0 line.glyphs
  rw [Nat.add_zero] at shifted
  have inside : ∀ position glyph, (position, glyph) ∈ Glyph.placed 0 line.glyphs →
      position < line.byteLength := by
    intro position glyph member
    have before := Glyph.lt_of_mem_placed member
    rw [Nat.zero_add] at before
    exact before
  rw [shifted, Glyph.within, List.filter_map, List.map_map]
  -- Cutting the range to the line takes away no glyph of the line.
  split
  · rw [Glyph.within]
    congr 1
    apply List.filter_congr
    rintro ⟨position, glyph⟩ member
    have before := inside position glyph member
    simp only [Function.comp_apply, Prod.map_apply, decide_eq_decide]
    omega
  · rw [List.map_eq_nil_iff, List.filter_eq_nil_iff]
    rintro ⟨position, glyph⟩ member
    have before := inside position glyph member
    simp only [Function.comp_apply, Prod.map_apply, decide_eq_true_eq]
    omega

end Line

namespace Block

variable {α : Type}

theorem mem_of_mem_placedLines {offset start : Nat} {glyph : Glyph α} {lines : List (Line α)}
    (member : (offset, glyph) ∈ placedLines start lines) :
    ∃ line ∈ lines, glyph ∈ line.glyphs := by
  induction lines generalizing start with
  | nil => cases member
  | cons line rest induction =>
      rcases List.mem_append.mp member with here | later
      · exact ⟨line, List.mem_cons_self, Glyph.mem_of_mem_placed here⟩
      · rcases induction later with ⟨other, present, found⟩
        exact ⟨other, List.mem_cons_of_mem line present, found⟩

variable [Scalar α]

/-- The parts of lines are the unions of the boxes in each line. -/
theorem exists_parts (start stop offset : Nat) (lines : List (Line α)) :
    ∃ parts : List (List (Rect α)),
      parts.flatten = Glyph.boxes (Glyph.within start stop (placedLines offset lines)) ∧
        rangeParts start stop offset lines = parts.filterMap Rect.unionAll? := by
  induction lines generalizing offset with
  | nil => exact ⟨[], rfl, rfl⟩
  | cons line rest induction =>
      rcases induction (offset + line.byteLength + 1) with ⟨parts, whole, united⟩
      refine ⟨Glyph.boxes (Glyph.within start stop (Glyph.placed offset line.glyphs)) :: parts,
        ?_, ?_⟩
      · rw [List.flatten_cons, whole, placedLines, Glyph.within_append, Glyph.boxes, Glyph.boxes,
          Glyph.boxes, List.map_append]
      · rw [rangeParts, united, line.within_placed]
        split
        · rw [Line.rangeBounds?, Glyph.boundsWithin?_eq, List.filterMap_cons]
          split
          · next nothing => rw [nothing, Option.toList_none, List.nil_append]
          · next part here => rw [here, Option.toList_some, List.singleton_append]
        · rfl

variable [Scalar.Ordered α]

theorem rangeBounds?_eq {block : Block α} {start stop : Nat}
    (defined : ∀ glyph ∈ Glyph.within start stop block.placed, glyph.bounds.IsDefined) :
    block.rangeBounds? start stop =
      Rect.unionAll? (Glyph.boxes (Glyph.within start stop block.placed)) := by
  rcases exists_parts start stop 0 block.lines with ⟨parts, whole, united⟩
  rw [rangeBounds?, united, placed, ← whole, Rect.unionAll?_flatten]
  intro rect member
  rw [whole] at member
  rcases List.mem_map.mp member with ⟨glyph, present, rfl⟩
  exact defined glyph present

end Block

/-! ## Elements -/

namespace Element

variable {α : Type}

/-- All glyphs with their positions in the text. -/
def placed : Element α → List (Nat × Glyph α)
  | .block group => group.placed
  | .line row => row.placed

/-- The glyphs in a range of the text. -/
def glyphsWithin (element : Element α) (start stop : Nat) : List (Glyph α) :=
  Glyph.within start stop element.placed

/-- The bounds of a range are the union of the boxes of the glyphs that stand in it. -/
theorem rangeBounds?_eq [Scalar α] [Scalar.Ordered α] {element : Element α} {start stop : Nat}
    (defined : ∀ glyph ∈ element.glyphsWithin start stop, glyph.bounds.IsDefined) :
    element.rangeBounds? start stop =
      Rect.unionAll? (Glyph.boxes (element.glyphsWithin start stop)) := by
  cases element with
  | block group => exact Block.rangeBounds?_eq defined
  | line row => exact Glyph.boundsWithin?_eq start stop row.placed

end Element

end PageSketch
