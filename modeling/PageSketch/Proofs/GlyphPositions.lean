import Mathlib.Data.List.ReduceOption
import PageSketch.Proofs.GlyphRanges
import PageSketch.Proofs.MatchSpans
import PageSketch.Proofs.ScalarOrder
import PageSketch.Sketch.Locator

/-! # Glyphs and their characters

Each character of the text of an element is that of a glyph or a line feed between two lines. A
glyph stands where its character begins in the text, so that a range of the text finds the
glyphs of the characters in it. -/

namespace PageSketch

/-- A character of a text: that of a glyph, or the line feed between two lines, which has none. -/
abbrev Cell (α : Type) := Option (Glyph α)

namespace Cell

variable {α : Type}

def character : Cell α → Char
  | some glyph => glyph.character
  | none => '\n'

def characters (cells : List (Cell α)) : List Char := cells.map character

/-- The glyphs of cells that stand from `start` to before `stop`, where the first one stands at
`offset`. -/
def within (start stop offset : Nat) : List (Cell α) → List (Glyph α)
  | [] => []
  | cell :: rest =>
      (if start ≤ offset ∧ offset < stop then cell.toList else []) ++
        within start stop (offset + (character cell).utf8Size) rest

theorem characters_append (first second : List (Cell α)) :
    characters (first ++ second) = characters first ++ characters second :=
  List.map_append

theorem byteLength_characters_cons (cell : Cell α) (rest : List (Cell α)) :
    Text.byteLength (characters (cell :: rest)) =
      (character cell).utf8Size + Text.byteLength (characters rest) := rfl

/-! ## Ranges of cells -/

variable {start stop offset : Nat} {cells : List (Cell α)}

theorem within_append (start stop offset : Nat) (first second : List (Cell α)) :
    within start stop offset (first ++ second) = within start stop offset first ++
      within start stop (offset + Text.byteLength (characters first)) second := by
  induction first generalizing offset with
  | nil => rfl
  | cons cell rest induction =>
      rw [List.cons_append, within, within, induction, List.append_assoc,
        byteLength_characters_cons, Nat.add_assoc]

theorem within_of_before (before : offset + Text.byteLength (characters cells) ≤ start) :
    within start stop offset cells = [] := by
  induction cells generalizing offset with
  | nil => rfl
  | cons cell rest induction =>
      rw [byteLength_characters_cons, ← Nat.add_assoc] at before
      have positive := (character cell).utf8Size_pos
      rw [within, induction before, if_neg (by omega), List.append_nil]

theorem within_of_after (after : stop ≤ offset) :
    within start stop offset cells = [] := by
  induction cells generalizing offset with
  | nil => rfl
  | cons cell rest induction =>
      rw [within, induction (by omega), if_neg (by omega), List.append_nil]

theorem within_of_inside (first : start ≤ offset)
    (last : offset + Text.byteLength (characters cells) ≤ stop) :
    within start stop offset cells = cells.reduceOption := by
  induction cells generalizing offset with
  | nil => rfl
  | cons cell rest induction =>
      rw [byteLength_characters_cons, ← Nat.add_assoc] at last
      have positive := (character cell).utf8Size_pos
      rw [within, induction (by omega) last, if_pos (by omega)]
      cases cell <;> rfl

/-- The glyphs are chosen by the position of each character, told by the text before it. -/
theorem filter_zipIdx (start stop : Nat) (before : List Char) (cells : List (Cell α)) :
    ((cells.zipIdx before.length).filter fun (_, index) =>
        let position := PatternMatch.byteOffset (before ++ characters cells) index
        start ≤ position ∧ position < stop).filterMap Prod.fst =
      within start stop (Text.byteLength before) cells := by
  induction cells generalizing before with
  | nil => rfl
  | cons cell rest induction =>
      have later := induction (before ++ [character cell])
      have further : Text.byteLength (before ++ [character cell]) =
          Text.byteLength before + (character cell).utf8Size := Text.byteLength_append _ _
      have position : PatternMatch.byteOffset (before ++ characters (cell :: rest)) before.length =
          Text.byteLength before := by
        rw [PatternMatch.byteOffset, List.take_left]
      rw [further, List.append_assoc, List.length_append, List.length_singleton] at later
      rw [within, ← later, List.zipIdx_cons]
      by_cases inside : start ≤ Text.byteLength before ∧ Text.byteLength before < stop
      · rw [List.filter_cons_of_pos (by simpa only [position, decide_eq_true_eq] using inside),
          List.filterMap_cons, if_pos inside]
        cases cell <;> rfl
      · rw [List.filter_cons_of_neg (by simpa only [position, decide_eq_true_eq] using inside),
          if_neg inside]
        rfl

theorem within_middle (front middle back : List (Cell α)) :
    within (Text.byteLength (characters front))
        (Text.byteLength (characters front) + Text.byteLength (characters middle)) 0
        (front ++ middle ++ back) = middle.reduceOption := by
  -- The cells in front end where the range starts, and those behind start where it ends.
  rw [within_append, within_append, characters_append, Text.byteLength_append, Nat.zero_add,
    within_of_before (Nat.zero_add _).le, within_of_inside le_rfl le_rfl,
    within_of_after (Nat.zero_add _).ge, List.nil_append, List.append_nil]

/-- Cells may be taken apart wherever their characters may. -/
theorem exists_parts {before middle after : List Char}
    (spelled : characters cells = before ++ middle ++ after) :
    ∃ front part back, cells = front ++ part ++ back ∧ characters front = before ∧
      characters part = middle ∧ characters back = after := by
  rcases List.map_eq_append_iff.mp spelled with ⟨_, back, rfl, spelled, last⟩
  rcases List.map_eq_append_iff.mp spelled with ⟨front, part, rfl, first, inner⟩
  exact ⟨front, part, back, rfl, first, inner, last⟩

end Cell

/-! ## Lines and blocks -/

namespace Glyph

variable {α : Type}

theorem characters_map_some (glyphs : List (Glyph α)) :
    Cell.characters (glyphs.map some) = characters glyphs := by
  rw [Cell.characters, List.map_map]
  rfl

theorem within_placed (start stop offset : Nat) (glyphs : List (Glyph α)) :
    within start stop (placed offset glyphs) = Cell.within start stop offset (glyphs.map some) := by
  induction glyphs generalizing offset with
  | nil => rfl
  | cons glyph rest induction =>
      rw [placed, List.map_cons, Cell.within, ← List.singleton_append, within_append, induction]
      congr 1
      rw [within, List.filter_cons]
      by_cases inside : start ≤ offset ∧ offset < stop
      · rw [if_pos (decide_eq_true inside), if_pos inside]
        rfl
      · rw [if_neg (by simpa using inside), if_neg inside]
        rfl

end Glyph

namespace Block

variable {α : Type}

/-- The cells of lines. -/
def lineCells (lines : List (Line α)) : List (Cell α) :=
  [none].intercalate (lines.map fun line => line.glyphs.map some)

theorem lineCells_cons_cons (first second : Line α) (rest : List (Line α)) :
    lineCells (first :: second :: rest) =
      first.glyphs.map some ++ none :: lineCells (second :: rest) := by
  rw [lineCells, List.map_cons, List.map_cons, List.intercalate_cons_cons, List.append_assoc]
  rfl

theorem characters_lineCells (lines : List (Line α)) :
    Cell.characters (lineCells lines) = ("\n".intercalate (lines.map Line.text)).toList := by
  have text : ∀ line : Line α, line.text.toList = Cell.characters (line.glyphs.map some) := by
    intro line
    rw [Line.text, String.toList_ofList, Glyph.characters_map_some]
    rfl
  induction lines with
  | nil => rfl
  | cons line rest induction =>
      cases rest with
      | nil =>
          rw [lineCells, List.map_singleton, List.map_singleton, List.intercalate_singleton,
            String.intercalate_singleton, text]
      | cons next others =>
          rw [lineCells_cons_cons, List.map_cons, List.map_cons, String.intercalate_cons_cons,
            String.toList_append, String.toList_append, List.append_assoc, text, ← List.map_cons,
            ← induction, Cell.characters_append]
          rfl

theorem within_placedLines (start stop offset : Nat) (lines : List (Line α)) :
    Glyph.within start stop (placedLines offset lines) =
      Cell.within start stop offset (lineCells lines) := by
  induction lines generalizing offset with
  | nil => rfl
  | cons line rest induction =>
      rw [placedLines, Glyph.within_append, Glyph.within_placed, induction]
      cases rest with
      | nil =>
          rw [lineCells, lineCells, List.map_nil, List.map_singleton, List.intercalate_nil,
            List.intercalate_singleton]
          exact List.append_nil _
      | cons next others =>
          -- The line feed takes one byte and has no glyph.
          have separator : Cell.within start stop (offset + line.byteLength)
              (none :: lineCells (next :: others)) =
                Cell.within start stop (offset + line.byteLength + 1)
                  (lineCells (next :: others)) := by
            rw [Cell.within]
            exact congrArg (· ++ _) (ite_self [])
          rw [lineCells_cons_cons, Cell.within_append, Glyph.characters_map_some]
          exact congrArg _ separator.symm

end Block

namespace Element

variable {α : Type}

/-- The characters of the text of an element, each with its glyph. -/
def cells : Element α → List (Cell α)
  | .block group => Block.lineCells group.lines
  | .line row => row.glyphs.map some

theorem characters_cells (element : Element α) :
    Cell.characters element.cells = element.text.toList := by
  cases element with
  | block group => exact Block.characters_lineCells group.lines
  | line row => exact (Glyph.characters_map_some row.glyphs).trans String.toList_ofList.symm

/-- The glyphs of the characters whose positions in the text are from `start` to before
`stop`. -/
def standing (element : Element α) (start stop : Nat) : List (Glyph α) :=
  (element.cells.zipIdx.filter fun (_, index) =>
    let position := PatternMatch.byteOffset element.text.toList index
    start ≤ position ∧ position < stop).filterMap Prod.fst

theorem standing_eq (element : Element α) (start stop : Nat) :
    element.standing start stop = Cell.within start stop 0 element.cells := by
  rw [standing, ← characters_cells]
  exact Cell.filter_zipIdx start stop [] element.cells

theorem glyphsWithin_eq (element : Element α) (start stop : Nat) :
    element.glyphsWithin start stop = element.standing start stop := by
  rw [standing_eq]
  cases element with
  | block group => exact Block.within_placedLines start stop 0 group.lines
  | line row => exact Glyph.within_placed start stop 0 row.glyphs

/-- The glyphs in a part of the text, between positions at which characters begin, are
those of the characters in it. -/
theorem exists_standing {element : Element α} {before middle after : List Char}
    (text : element.text.toList = before ++ middle ++ after) :
    ∃ front part back, element.cells = front ++ part ++ back ∧
      Cell.characters front = before ∧ Cell.characters part = middle ∧
      Cell.characters back = after ∧
      element.standing (Text.byteLength before)
        (Text.byteLength before + Text.byteLength middle) = part.reduceOption := by
  rw [← characters_cells] at text
  rcases Cell.exists_parts text with ⟨front, part, back, cells, rfl, rfl, rfl⟩
  refine ⟨front, part, back, cells, rfl, rfl, rfl, ?_⟩
  rw [standing_eq, cells, Cell.within_middle]

theorem mem_cells_of_mem_standing {element : Element α} {start stop : Nat} {glyph : Glyph α}
    (member : glyph ∈ element.standing start stop) : some glyph ∈ element.cells := by
  rcases List.mem_filterMap.mp member with ⟨⟨cell, index⟩, kept, rfl⟩
  exact List.fst_mem_of_mem_zipIdx (List.mem_filter.mp kept).1

variable [Scalar α] [Scalar.Ordered α]

/-- The bounds of a range of the text, whatever its ends, are the union of the boxes of the
glyphs whose characters begin in it. Between positions at which characters begin, these are the
glyphs of the characters in the range, line feeds between lines left out. So bounds that
are those of a match are the union of the boxes of the characters that were matched. -/
theorem rangeBounds?_covers (element : Element α)
    (defined : ∀ glyph, some glyph ∈ element.cells → glyph.bounds.IsDefined) :
    element.text.toList = Cell.characters element.cells ∧
      (∀ start stop,
        element.rangeBounds? start stop =
            Rect.unionAll? (Glyph.boxes (element.standing start stop)) ∧
          (element.rangeBounds? start stop = none ↔ element.standing start stop = [])) ∧
      (∀ before middle after, element.text.toList = before ++ middle ++ after →
        ∃ front part back, element.cells = front ++ part ++ back ∧
          Cell.characters front = before ∧ Cell.characters part = middle ∧
          Cell.characters back = after ∧
          element.standing (Text.byteLength before)
            (Text.byteLength before + Text.byteLength middle) = part.reduceOption) ∧
      ∀ locator : TextLocator, locator.boundsFromMatch = true →
        ∀ found, PatternMatch.evaluate? locator.pattern element.text = some found →
          ∃ front part back group, element.cells = front ++ part ++ back ∧
            found.group? 0 = some group ∧ group.text.toList = Cell.characters part ∧
            group.span = some ⟨Text.byteLength (Cell.characters front),
              Text.byteLength (Cell.characters front) +
                Text.byteLength (Cell.characters part)⟩ ∧
            locator.place element found =
              (Rect.unionAll? (Glyph.boxes part.reduceOption)).getD element.bounds := by
  have united : ∀ start stop, element.rangeBounds? start stop =
      Rect.unionAll? (Glyph.boxes (element.standing start stop)) := by
    intro start stop
    rw [← glyphsWithin_eq]
    refine rangeBounds?_eq fun glyph member => defined glyph ?_
    rw [glyphsWithin_eq] at member
    exact mem_cells_of_mem_standing member
  refine ⟨(characters_cells element).symm, fun start stop => ⟨united start stop, ?_⟩,
    fun _ _ _ => exists_standing, ?_⟩
  · rw [united, Rect.unionAll?_eq_none]
    exact List.map_eq_nil_iff
  · intro locator narrowed found evaluated
    rcases PatternMatch.exists_matched evaluated with
      ⟨before, matched, after, group, text, captured, spelled, span⟩
    rcases exists_standing text with ⟨front, part, back, cells, rfl, rfl, rfl, standing⟩
    refine ⟨front, part, back, group, cells, captured, spelled, ?_, ?_⟩
    · rw [PatternMatch.span_of_group? captured, span]
    · rw [TextLocator.place, if_pos narrowed, span, ← standing, ← united]
      rfl

/-- A line that ends with a line feed of its own, a line without glyphs, and a third line. -/
def stanza : Element Float :=
  let box (left top : Float) : Rect Float := ⟨⟨left⟩, ⟨top⟩, ⟨left + 10⟩, ⟨top + 10⟩⟩
  .block {
    bounds := ⟨⟨0⟩, ⟨0⟩, ⟨50⟩, ⟨50⟩⟩
    lines := [⟨box 0 0, [⟨'ä', box 0 0⟩, ⟨'\n', box 10 0⟩]⟩, ⟨box 0 10, []⟩,
      ⟨box 0 20, [⟨'b', box 0 20⟩]⟩] }

/-- A locator of line feeds in a row. -/
def feeds : TextLocator where
  kind := .block
  pattern := (Pattern.read? "\\n+").get (by decide +kernel)
  boundsFromMatch := true

theorem rangeBounds?_covers_stanza :
    (∀ glyph, some glyph ∈ stanza.cells → glyph.bounds.IsDefined) ∧
      stanza.text.toList = ['ä', '\n', '\n', '\n', 'b'] ∧
      stanza.rangeBounds? 1 6 = Rect.unionAll? (Glyph.boxes (stanza.standing 1 6)) ∧
      stanza.rangeBounds? 1 6 = some ⟨⟨0⟩, ⟨0⟩, ⟨20⟩, ⟨30⟩⟩ ∧
      (stanza.rangeBounds? 6 1 = none ↔ stanza.standing 6 1 = []) ∧
      ∃ found, PatternMatch.evaluate? feeds.pattern stanza.text = some found ∧
        feeds.place stanza found = ⟨⟨10⟩, ⟨0⟩, ⟨20⟩, ⟨10⟩⟩ ∧
        ∃ front part back group, stanza.cells = front ++ part ++ back ∧
          found.group? 0 = some group ∧ group.text.toList = Cell.characters part ∧
          group.span = some ⟨Text.byteLength (Cell.characters front),
            Text.byteLength (Cell.characters front) +
              Text.byteLength (Cell.characters part)⟩ ∧
          feeds.place stanza found =
            (Rect.unionAll? (Glyph.boxes part.reduceOption)).getD stanza.bounds := by
  have defined : ∀ glyph, some glyph ∈ stanza.cells → glyph.bounds.IsDefined := by
    have each : ∀ glyph ∈ stanza.cells.reduceOption, glyph.bounds.IsNormalized := by
      decide +kernel
    exact fun glyph member => (each glyph (List.reduceOption_mem_iff.mpr member)).isDefined
  have place : (PatternMatch.evaluate? feeds.pattern stanza.text).map (feeds.place stanza) =
      some ⟨⟨10⟩, ⟨0⟩, ⟨20⟩, ⟨10⟩⟩ := by decide +kernel
  rcases Option.map_eq_some_iff.mp place with ⟨found, evaluated, placed⟩
  rcases rangeBounds?_covers stanza defined with ⟨_, ranges, _, narrowed⟩
  exact ⟨defined, by decide +kernel, (ranges 1 6).1, by decide +kernel, (ranges 6 1).2, found,
    evaluated, placed, narrowed feeds rfl found evaluated⟩

end Element

end PageSketch
