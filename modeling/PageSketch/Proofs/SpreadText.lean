import Mathlib.Data.List.Intervals
import Mathlib.Data.Nat.Cast.Order.Ring
import Mathlib.Tactic.Ring
import PageSketch.Proofs.GlyphPositions
import PageSketch.Scalar.Exact

/-! # Text spread over a line

The characters of a line that is given by its text divide the box of the line into columns of
equal width. Without rounding, these fit together: the bounds of a range of the text reach from
where the column of its first character begins to where the column of its last one ends. -/

namespace PageSketch

namespace Length

theorem min_eq_left {α : Type} [Scalar α] [Scalar.Ordered α] {a b : Length α} (before : a ≤ b) :
    a.min b = a := if_neg (not_lt_of_le before)

theorem max_eq_right {a b : Length Rat} (before : a ≤ b) : a.max b = b := by
  rcases lt_or_eq_of_le (α := Rat) before with below | equal
  · exact if_pos below
  · rw [show a = b from congrArg Length.mk equal, Length.max, ite_self]

end Length

/-! ## Columns -/

namespace Rect

/-- Where column number `index` of `count` columns begins, counted from zero. -/
def column (bounds : Rect Rat) (count index : Nat) : Length Rat :=
  ⟨bounds.left.points + index * (bounds.right.points - bounds.left.points) / count⟩

/-- The columns from number `start` to before number `stop`. -/
def columns (bounds : Rect Rat) (count start stop : Nat) : Rect Rat :=
  ⟨bounds.column count start, bounds.top, bounds.column count stop, bounds.bottom⟩

variable {bounds : Rect Rat} {count start middle stop : Nat}

theorem column_zero : bounds.column count 0 = bounds.left := by
  simp [column]

theorem column_count (positive : 0 < count) : bounds.column count count = bounds.right := by
  have nonzero : (count : Rat) ≠ 0 := Nat.cast_ne_zero.mpr positive.ne'
  rw [column, mul_div_cancel_left₀ _ nonzero, add_sub_cancel]

theorem column_le (across : bounds.left ≤ bounds.right) (ordered : start ≤ stop) :
    bounds.column count start ≤ bounds.column count stop := by
  have width : 0 ≤ bounds.right.points - bounds.left.points := sub_nonneg.mpr across
  have parts : (0 : Rat) ≤ count := Nat.cast_nonneg count
  change bounds.left.points + _ ≤ bounds.left.points + _
  gcongr

theorem part_eq (index : Nat) (positive : 0 < count) :
    Line.part bounds (Line.stepWidth bounds count) index =
      bounds.columns count index (index + 1) := by
  rw [Line.part, Line.stepWidth, if_neg positive.ne', columns, column, column, mk.injEq]
  refine ⟨congrArg Length.mk ?_, rfl, congrArg Length.mk ?_, rfl⟩
  · change bounds.left.points + (bounds.right.points - bounds.left.points) / count * index = _
    ring
  · change bounds.left.points + (bounds.right.points - bounds.left.points) / count * index +
      (bounds.right.points - bounds.left.points) / count = _
    push_cast
    ring

/-- Columns that follow each other join. -/
theorem union_columns (across : bounds.left ≤ bounds.right) (first : start ≤ middle)
    (second : middle ≤ stop) :
    (bounds.columns count start middle).union (bounds.columns count middle stop) =
      bounds.columns count start stop := by
  have before : bounds.column count start ≤ bounds.column count middle := column_le across first
  have after : bounds.column count middle ≤ bounds.column count stop := column_le across second
  have self : ∀ length : Length Rat, length ≤ length := fun _ => Rat.le_refl
  rw [columns, columns, union, Length.min_eq_left before, Length.max_eq_right after,
    Length.min_eq_left (self _), Length.max_eq_right (self _)]
  rfl

theorem foldl_union_columns (across : bounds.left ≤ bounds.right) (ordered : start ≤ middle)
    (length : Nat) :
    ((List.range' middle length).map fun index => bounds.columns count index (index + 1)).foldl
        union (bounds.columns count start middle) =
      bounds.columns count start (middle + length) := by
  induction length generalizing middle with
  | zero => rfl
  | succ length induction =>
      rw [List.range'_succ, List.map_cons, List.foldl_cons,
        union_columns across ordered (Nat.le_succ middle), induction (by omega)]
      congr 1
      omega

theorem unionAll?_columns (across : bounds.left ≤ bounds.right) (ordered : start < stop) :
    unionAll? ((List.Ico start stop).map fun index => bounds.columns count index (index + 1)) =
      some (bounds.columns count start stop) := by
  rw [List.Ico.eq_cons ordered, List.map_cons, unionAll?, List.Ico,
    foldl_union_columns across (Nat.le_succ start), Nat.add_sub_cancel' ordered]

end Rect

/-! ## Positions in a text -/

namespace PatternMatch

variable {text : List Char} {first second : Nat}

theorem byteOffset_lt (before : first < second) (within : second ≤ text.length) :
    byteOffset text first < byteOffset text second := by
  rcases Nat.exists_eq_add_of_lt before with ⟨length, rfl⟩
  rw [Nat.add_assoc, byteOffset_add, List.drop_eq_getElem_cons (by omega), List.take_succ_cons,
    Text.byteLength_cons]
  have positive := text[first].utf8Size_pos
  omega

theorem byteOffset_lt_iff (inside : first ≤ text.length) (within : second ≤ text.length) :
    byteOffset text first < byteOffset text second ↔ first < second := by
  constructor
  · intro before
    by_contra after
    rcases (Nat.le_of_not_lt after).lt_or_eq with behind | same
    · exact Nat.lt_asymm before (byteOffset_lt behind inside)
    · exact Nat.lt_irrefl _ (same ▸ before)
  · exact fun before => byteOffset_lt before within

end PatternMatch

/-! ## Lines -/

/-- If boxes are told by positions in a list, then the boxes of a choice of positions are those
of the numbers chosen. -/
theorem Glyph.boxes_filter_zipIdx {α : Type} {cells : List (Cell α)} {box : Nat → Rect α}
    (chosen : Nat → Bool)
    (told : ∀ cell index, (cell, index) ∈ cells.zipIdx →
      cell.map (·.bounds) = some (box index)) :
    boxes ((cells.zipIdx.filter fun numbered => chosen numbered.2).filterMap Prod.fst) =
      ((List.Ico 0 cells.length).filter chosen).map box := by
  have each : ∀ numbered ∈ cells.zipIdx.filter (chosen ∘ Prod.snd),
      numbered.1.map (·.bounds) = some ((box ∘ Prod.snd) numbered) :=
    fun numbered member => told _ _ (List.mem_filter.mp member).1
  have positions : cells.zipIdx.map Prod.snd = List.Ico 0 cells.length :=
    List.zipIdx_map_snd 0 cells
  calc boxes ((cells.zipIdx.filter (chosen ∘ Prod.snd)).filterMap Prod.fst)
      = (cells.zipIdx.filter (chosen ∘ Prod.snd)).filterMap
          fun numbered => numbered.1.map (·.bounds) := List.map_filterMap ..
    _ = (cells.zipIdx.filter (chosen ∘ Prod.snd)).map (box ∘ Prod.snd) := by
      rw [List.filterMap_congr each]
      exact congrFun (List.filterMap_eq_map ..) _
    _ = ((List.Ico 0 cells.length).filter chosen).map box := by
      rw [← positions, List.filter_map, List.map_map]

namespace Line

theorem filter_Ico {count first last : Nat} (within : last ≤ count) :
    (List.Ico 0 count).filter (fun index => first ≤ index ∧ index < last) =
      List.Ico first last := by
  simp only [Bool.decide_and]
  rw [← List.filter_filter, List.Ico.filter_lt, List.Ico.filter_le, Nat.min_eq_right within,
    Nat.max_eq_right first.zero_le]

variable {bounds : Rect Rat} {text : String} {first last start stop : Nat}

theorem glyphs_ofText (inhabited : text ≠ "") :
    (ofText bounds text).glyphs = text.toList.zipIdx.map fun (character, index) =>
      ⟨character, bounds.columns text.length index (index + 1)⟩ := by
  have positive : 0 < text.length := Nat.pos_of_ne_zero (mt String.length_eq_zero_iff.mp inhabited)
  refine List.map_congr_left fun (character, index) _ => ?_
  exact congrArg (Glyph.mk character) (Rect.part_eq index positive)

theorem toList_text_ofText : (ofText bounds text).text.toList = text.toList := by
  rw [Line.text, String.toList_ofList, characters, Glyph.characters, ofText, List.map_map]
  exact List.zipIdx_map_fst 0 text.toList

theorem length_cells_ofText :
    (Element.line (ofText bounds text)).cells.length = text.length := by
  rw [Element.cells, ofText, List.length_map, List.length_map, List.length_zipIdx,
    String.length_toList]

/-- The box of a glyph is told by its position. -/
theorem bounds_of_mem_cells (inhabited : text ≠ "") (cell : Cell Rat) (index : Nat)
    (member : (cell, index) ∈ (Element.line (ofText bounds text)).cells.zipIdx) :
    cell.map (·.bounds) = some (bounds.columns text.length index (index + 1)) := by
  rw [Element.cells, glyphs_ofText inhabited, List.map_map, List.mk_mem_zipIdx_iff_getElem?,
    List.getElem?_map, List.getElem?_zipIdx] at member
  simp only [Option.map_eq_some_iff] at member
  rcases member with ⟨_, ⟨character, _, rfl⟩, rfl⟩
  rw [Nat.zero_add]
  rfl

/-- A range that covers certain characters has the bounds of their columns. -/
theorem rangeBounds?_ofText (across : bounds.left ≤ bounds.right) (inhabited : text ≠ "")
    (ordered : first < last) (within : last ≤ text.length)
    (covers : ∀ index < text.length,
      (start ≤ PatternMatch.byteOffset text.toList index ∧
        PatternMatch.byteOffset text.toList index < stop) ↔ first ≤ index ∧ index < last) :
    (ofText bounds text).rangeBounds? start stop =
      some (bounds.columns text.length first last) := by
  have chosen : Glyph.within start stop (ofText bounds text).placed =
      ((Element.line (ofText bounds text)).cells.zipIdx.filter
        fun numbered => first ≤ numbered.2 ∧ numbered.2 < last).filterMap Prod.fst := by
    rw [show Glyph.within start stop (ofText bounds text).placed = _ from
      Element.glyphsWithin_eq (.line (ofText bounds text)) start stop, Element.standing]
    congr 1
    refine List.filter_congr fun numbered member => ?_
    have inside := List.snd_lt_of_mem_zipIdx member
    rw [length_cells_ofText, Nat.add_zero] at inside
    rw [decide_eq_decide, ← covers numbered.2 inside, Element.text, toList_text_ofText]
  rw [rangeBounds?, Glyph.boundsWithin?_eq, chosen,
    Glyph.boxes_filter_zipIdx (fun index => decide (first ≤ index ∧ index < last))
      (bounds_of_mem_cells inhabited),
    length_cells_ofText, filter_Ico within, Rect.unionAll?_columns across ordered]

/-- The columns of the characters of a text tile the box of the line. Of a range of the text,
whatever its ends, the bounds are the columns of the characters it covers; the range of the
whole text has the box of the line. -/
theorem ofText_tiles (across : bounds.left ≤ bounds.right) (inhabited : text ≠ "") :
    (ofText bounds text).glyphs.length = text.length ∧
      (∀ index < text.length, ∃ glyph, (ofText bounds text).glyphs[index]? = some glyph ∧
        text.toList[index]? = some glyph.character ∧
        glyph.bounds = bounds.columns text.length index (index + 1)) ∧
      bounds.column text.length 0 = bounds.left ∧
      bounds.column text.length text.length = bounds.right ∧
      (∀ first last start stop, first < last → last ≤ text.length →
        (∀ index < text.length,
          (start ≤ PatternMatch.byteOffset text.toList index ∧
            PatternMatch.byteOffset text.toList index < stop) ↔ first ≤ index ∧ index < last) →
        (ofText bounds text).rangeBounds? start stop =
          some (bounds.columns text.length first last)) ∧
      (∀ first last, first < last → last ≤ text.length →
        (ofText bounds text).rangeBounds? (PatternMatch.byteOffset text.toList first)
            (PatternMatch.byteOffset text.toList last) =
          some (bounds.columns text.length first last)) ∧
      (ofText bounds text).rangeBounds? 0 (Text.byteLength text.toList) = some bounds := by
  have positive : 0 < text.length := Nat.pos_of_ne_zero (mt String.length_eq_zero_iff.mp inhabited)
  have between : ∀ first last, first < last → last ≤ text.length →
      (ofText bounds text).rangeBounds? (PatternMatch.byteOffset text.toList first)
          (PatternMatch.byteOffset text.toList last) =
        some (bounds.columns text.length first last) := by
    intro first last ordered within
    refine rangeBounds?_ofText across inhabited ordered within fun index inside => ?_
    rw [← String.length_toList] at inside within
    rw [← Nat.not_lt, PatternMatch.byteOffset_lt_iff inside.le (ordered.le.trans within),
      PatternMatch.byteOffset_lt_iff inside.le within, Nat.not_lt]
  refine ⟨?_, fun index inside => ?_, Rect.column_zero, Rect.column_count positive,
    fun first last start stop => rangeBounds?_ofText across inhabited, between, ?_⟩
  · rw [ofText, List.length_map, List.length_zipIdx, String.length_toList]
  · have listed : index < text.toList.length := String.length_toList ▸ inside
    refine ⟨⟨text.toList[index], bounds.columns text.length index (index + 1)⟩, ?_,
      List.getElem?_eq_getElem listed, rfl⟩
    rw [glyphs_ofText inhabited, List.getElem?_map, List.getElem?_zipIdx,
      List.getElem?_eq_getElem listed, Option.map_some, Option.map_some, Nat.zero_add]
  · have whole := between 0 text.length positive le_rfl
    rw [PatternMatch.byteOffset, PatternMatch.byteOffset, List.take_zero, Text.byteLength_nil,
      ← String.length_toList, List.take_length] at whole
    rw [whole, String.length_toList, Rect.columns, Rect.column_zero, Rect.column_count positive]

/-- A box nine wide, for three columns. -/
def nineWide : Rect Rat := ⟨⟨1⟩, ⟨0⟩, ⟨10⟩, ⟨5⟩⟩

/-- The second range begins within the first character, which it does not cover. -/
theorem ofText_tiles_accents :
    nineWide.left ≤ nineWide.right ∧ "é€a" ≠ "" ∧
      (ofText nineWide "é€a").rangeBounds? 2 6 = some ⟨⟨4⟩, ⟨0⟩, ⟨10⟩, ⟨5⟩⟩ ∧
      (ofText nineWide "é€a").rangeBounds? 1 3 = some ⟨⟨4⟩, ⟨0⟩, ⟨7⟩, ⟨5⟩⟩ ∧
      (ofText nineWide "é€a").rangeBounds? 0 6 = some nineWide := by
  have across : nineWide.left ≤ nineWide.right := by decide +kernel
  have inhabited : "é€a" ≠ "" := by decide
  rcases ofText_tiles across inhabited with ⟨_, _, _, _, covering, between, whole⟩
  refine ⟨across, inhabited, ?_, ?_, whole⟩
  · rw [show some (⟨⟨4⟩, ⟨0⟩, ⟨10⟩, ⟨5⟩⟩ : Rect Rat) = some (nineWide.columns 3 1 3) by
      decide +kernel]
    exact between 1 3 (by decide) (by decide)
  · rw [show some (⟨⟨4⟩, ⟨0⟩, ⟨7⟩, ⟨5⟩⟩ : Rect Rat) = some (nineWide.columns 3 1 2) by
      decide +kernel]
    exact covering 1 2 1 3 (by decide) (by decide) (by decide)

end Line

end PageSketch
