import PageSketch.Proofs.GlyphPositions
import PageSketch.Proofs.NodePlaces

/-! # Bounds of blocks without boxes

A block and lines that come without boxes have bounds that are derived from their glyphs. They
are the smallest ones around all glyphs, except that a line without glyphs lies at the origin of
the page and draws the bounds of its block there. -/

namespace PageSketch

/-! ## Unions of parts -/

namespace Rect

variable {α : Type} [Scalar α] {fallback outer : Rect α} {parts : List (List (Rect α))}

theorem map_getD_unionAll? (inhabited : ∀ part ∈ parts, part ≠ []) :
    parts.map (fun part => (unionAll? part).getD fallback) = parts.filterMap unionAll? := by
  induction parts with
  | nil => rfl
  | cons part rest induction =>
      have later := induction fun other member => inhabited other (List.mem_cons_of_mem part member)
      cases united : unionAll? part with
      | none => exact absurd (unionAll?_eq_none.mp united) (inhabited part List.mem_cons_self)
      | some whole =>
          rw [List.map_cons, List.filterMap_cons_some united, later, united, Option.getD_some]

variable [Scalar.Ordered α]

theorem contains_getD_unionAll?_iff {rects : List (Rect α)}
    (normalized : ∀ rect ∈ rects, rect.IsNormalized) :
    outer.Contains ((unionAll? rects).getD fallback) ↔
      (∀ rect ∈ rects, outer.Contains rect) ∧ (rects = [] → outer.Contains fallback) := by
  cases united : unionAll? rects with
  | none =>
      rw [unionAll?_eq_none.mp united, Option.getD_none]
      simp
  | some whole =>
      have inhabited : rects ≠ [] := by
        rintro rfl
        cases united
      rw [Option.getD_some, contains_unionAll?_iff normalized united]
      simp [inhabited]

theorem isNormalized_getD_unionAll? {rects : List (Rect α)} (fine : fallback.IsNormalized)
    (normalized : ∀ rect ∈ rects, rect.IsNormalized) :
    ((unionAll? rects).getD fallback).IsNormalized := by
  cases united : unionAll? rects with
  | none => exact fine
  | some whole => exact of_unionAll? normalized IsNormalized.union united

/-- The union of parts is the smallest rectangle around what is in them, and around what stands
for a part with nothing in it. -/
theorem contains_parts_iff (fine : fallback.IsNormalized) (inhabited : parts ≠ [])
    (normalized : ∀ part ∈ parts, ∀ rect ∈ part, rect.IsNormalized) :
    outer.Contains
        ((unionAll? (parts.map fun part => (unionAll? part).getD fallback)).getD fallback) ↔
      (∀ part ∈ parts, ∀ rect ∈ part, outer.Contains rect) ∧
        ([] ∈ parts → outer.Contains fallback) := by
  have each : ∀ rect ∈ parts.map (fun part => (unionAll? part).getD fallback),
      rect.IsNormalized := by
    intro rect member
    rcases List.mem_map.mp member with ⟨part, listed, rfl⟩
    exact isNormalized_getD_unionAll? fine (normalized part listed)
  have parted : ∀ part ∈ parts, outer.Contains ((unionAll? part).getD fallback) ↔
      (∀ rect ∈ part, outer.Contains rect) ∧ (part = [] → outer.Contains fallback) :=
    fun part listed => contains_getD_unionAll?_iff (normalized part listed)
  rw [contains_getD_unionAll?_iff each, List.forall_mem_map, forall₂_congr parted]
  constructor
  · rintro ⟨both, _⟩
    exact ⟨fun part listed => (both part listed).1, fun blank => (both [] blank).2 rfl⟩
  · rintro ⟨inside, blank⟩
    refine ⟨fun part listed => ⟨inside part listed, fun nothing => blank (nothing ▸ listed)⟩, ?_⟩
    exact fun nothing => absurd (List.map_eq_nil_iff.mp nothing) inhabited

end Rect

/-! ## The text of a block -/

namespace Block

variable {α : Type}

theorem reduceOption_lineCells (lines : List (Line α)) :
    (lineCells lines).reduceOption = lines.flatMap (·.glyphs) := by
  have whole : ∀ glyphs : List (Glyph α), (glyphs.map some).reduceOption = glyphs := by
    intro glyphs
    rw [List.reduceOption, List.filterMap_map]
    exact List.filterMap_some
  induction lines with
  | nil => rfl
  | cons line rest induction =>
      cases rest with
      | nil =>
          rw [lineCells, List.map_singleton, List.intercalate_singleton, List.flatMap_singleton,
            whole]
      | cons next others =>
          rw [lineCells_cons_cons, List.reduceOption_append, List.reduceOption_cons_of_none,
            induction, whole]
          rfl

/-- The range of the whole text finds all glyphs. -/
theorem within_text (block : Block α) :
    Glyph.within 0 (Text.byteLength block.text.toList) block.placed =
      block.lines.flatMap (·.glyphs) := by
  rw [placed, within_placedLines, text, ← characters_lineCells,
    Cell.within_of_inside (Nat.le_refl 0) (Nat.zero_add _).le, reduceOption_lineCells]

end Block

/-! ## Blocks as written -/

theorem mapNumbered_of_ok {β γ : Type} {name : String} {convert : β → Except Failure γ}
    {items : List β} {value : β → γ} (each : ∀ item ∈ items, convert item = .ok (value item)) :
    mapNumbered name convert items = .ok (items.map value) := by
  have numbered : items.map value = items.zipIdx.map (value ∘ Prod.fst) := by
    rw [← List.map_map, List.zipIdx_map_fst]
  rw [mapNumbered, Steps.mapM_eq_ok, numbered, List.forall₂_map_right_iff, List.forall₂_same]
  rintro ⟨item, index⟩ member
  exact Failure.atPlace_eq_ok.mpr (each item (List.fst_mem_of_mem_zipIdx member))

namespace BlockSpec

variable {α : Type} [Scalar α] {spec : BlockSpec α}

/-- The boxes of the characters of each line. -/
def lineBoxes (spec : BlockSpec α) : List (List (Rect α)) :=
  spec.lines.map fun line => line.glyphs.map (·.box)

/-- The boxes of all characters. -/
def boxes (spec : BlockSpec α) : List (Rect α) := spec.lineBoxes.flatten

/-- A line has no characters. -/
def HasBlankLine (spec : BlockSpec α) : Prop := ∃ line ∈ spec.lines, line.glyphs = []

omit [Scalar α] in
theorem nil_mem_lineBoxes : [] ∈ spec.lineBoxes ↔ spec.HasBlankLine := by
  simp [lineBoxes, HasBlankLine]

/-- Nothing but characters has a box. -/
structure IsBoxless (spec : BlockSpec α) : Prop where
  box : spec.box = none
  lines : ∀ line ∈ spec.lines, line.box = none ∧ line.text = none

/-- The block that a block without boxes means. -/
def derived (spec : BlockSpec α) : Block α :=
  .ofLines (spec.lines.map fun line => .ofGlyphs (line.glyphs.map GlyphSpec.glyph))

theorem IsBoxless.block (boxless : spec.IsBoxless) : spec.block = .ok spec.derived := by
  have lines : mapNumbered "line" LineSpec.line spec.lines =
      .ok (spec.lines.map fun line => .ofGlyphs (line.glyphs.map GlyphSpec.glyph)) := by
    refine mapNumbered_of_ok fun line listed => ?_
    rcases boxless.lines line listed with ⟨box, text⟩
    rw [LineSpec.line, box, text]
  rw [BlockSpec.block, lines, boxless.box]
  rfl

theorem bounds_derived (spec : BlockSpec α) :
    spec.derived.bounds =
      (Rect.unionAll?
        (spec.lineBoxes.map fun part => (Rect.unionAll? part).getD .zero)).getD .zero := by
  have line : ∀ written : LineSpec α, (Line.ofGlyphs (written.glyphs.map GlyphSpec.glyph)).bounds =
      (Rect.unionAll? (written.glyphs.map (·.box))).getD .zero := by
    intro written
    rw [Line.ofGlyphs, List.map_map]
    rfl
  have lines : spec.derived.lines.map (·.bounds) =
      spec.lineBoxes.map fun part => (Rect.unionAll? part).getD .zero := by
    rw [lineBoxes, List.map_map]
    exact List.map_map.trans (List.map_congr_left fun written _ => line written)
  exact congrArg (fun rects => (Rect.unionAll? rects).getD .zero) lines

/-- The range of the whole text finds the boxes of all characters. -/
theorem boxes_within_derived (spec : BlockSpec α) :
    Glyph.boxes (Glyph.within 0 (Text.byteLength spec.derived.text.toList) spec.derived.placed) =
      spec.boxes := by
  have line : ∀ written : LineSpec α,
      Glyph.boxes (written.glyphs.map GlyphSpec.glyph) = written.glyphs.map (·.box) :=
    fun written => List.map_map
  rw [Block.within_text, Glyph.boxes, List.map_flatMap, boxes, lineBoxes, ← List.flatMap_def]
  change List.flatMap _ (List.map _ spec.lines) = _
  rw [List.flatMap_map]
  exact List.flatMap_congr fun written _ => line written

variable [Scalar.Ordered α]

theorem bounds_derived_eq {extent : Rect α} (normalized : ∀ rect ∈ spec.boxes, rect.IsNormalized)
    (full : ¬spec.HasBlankLine) (united : Rect.unionAll? spec.boxes = some extent) :
    spec.derived.bounds = extent := by
  rw [← nil_mem_lineBoxes] at full
  rw [bounds_derived, Rect.map_getD_unionAll? fun part listed blank => full (blank ▸ listed),
    ← Rect.unionAll?_flatten fun rect member => (normalized rect member).isDefined, ← boxes, united,
    Option.getD_some]

theorem rangeBounds?_derived (normalized : ∀ rect ∈ spec.boxes, rect.IsNormalized) :
    spec.derived.rangeBounds? 0 (Text.byteLength spec.derived.text.toList) =
      Rect.unionAll? spec.boxes := by
  rw [Block.rangeBounds?_eq, boxes_within_derived]
  intro glyph member
  have listed : glyph.bounds ∈ spec.boxes := by
    rw [← boxes_within_derived]
    exact List.mem_map_of_mem member
  exact (normalized _ listed).isDefined

variable [Scalar.Wholes α]

theorem contains_bounds_derived_iff {outer : Rect α}
    (normalized : ∀ rect ∈ spec.boxes, rect.IsNormalized) (inhabited : spec.boxes ≠ []) :
    outer.Contains spec.derived.bounds ↔
      (∀ rect ∈ spec.boxes, outer.Contains rect) ∧ (spec.HasBlankLine → outer.Contains .zero) := by
  have origin : (Rect.zero : Rect α).IsNormalized :=
    ⟨Length.le_self (Rect.isDefined_zero .left), Length.le_self (Rect.isDefined_zero .top)⟩
  have listed : spec.lineBoxes ≠ [] := by
    intro nothing
    exact inhabited (congrArg List.flatten nothing)
  rw [bounds_derived, Rect.contains_parts_iff origin listed, nil_mem_lineBoxes, boxes,
    List.forall_mem_flatten]
  exact List.forall_mem_flatten.mp normalized

/-- Without boxes, a block has bounds that are the smallest around all characters and, if there
is a line without any, around the origin of the page. The range of the whole text always has the
smallest bounds around the characters alone, so the bounds of the block are as small only if all
lines have characters or the origin lies among them. -/
theorem bounds_of_boxless (boxless : spec.IsBoxless)
    (normalized : ∀ rect ∈ spec.boxes, rect.IsNormalized) (inhabited : spec.boxes ≠ []) :
    ∃ block extent, spec.block = .ok block ∧
      block.rangeBounds? 0 (Text.byteLength block.text.toList) = some extent ∧
      extent.IsNormalized ∧
      (∀ outer : Rect α, outer.Contains extent ↔ ∀ rect ∈ spec.boxes, outer.Contains rect) ∧
      (∀ outer : Rect α, outer.Contains block.bounds ↔
        outer.Contains extent ∧ (spec.HasBlankLine → outer.Contains .zero)) ∧
      (¬spec.HasBlankLine → block.bounds = extent) ∧
      (extent.Contains block.bounds ↔ (spec.HasBlankLine → extent.Contains .zero)) := by
  cases united : Rect.unionAll? spec.boxes with
  | none => exact absurd (Rect.unionAll?_eq_none.mp united) inhabited
  | some extent =>
      have least : ∀ outer : Rect α,
          outer.Contains extent ↔ ∀ rect ∈ spec.boxes, outer.Contains rect :=
        fun outer => Rect.contains_unionAll?_iff normalized united
      have around : ∀ outer : Rect α, outer.Contains spec.derived.bounds ↔
          outer.Contains extent ∧ (spec.HasBlankLine → outer.Contains .zero) := by
        intro outer
        rw [contains_bounds_derived_iff normalized inhabited, least]
      have fine : extent.IsNormalized := Rect.of_unionAll? normalized Rect.IsNormalized.union united
      refine ⟨spec.derived, extent, boxless.block, (rangeBounds?_derived normalized).trans united,
        fine, least, around, fun full => bounds_derived_eq normalized full united, ?_⟩
      rw [around]
      exact and_iff_right (Rect.contains_self fine)

/-- A rectangle ten wide and ten high. -/
def tenWide (left top : Nat) : Rect Float :=
  .ofExtent ⟨.ofNat left⟩ ⟨.ofNat top⟩ ⟨10⟩ ⟨10⟩

/-- A block of two lines, the first of which has one character. -/
def twoLines (second : List (GlyphSpec Float)) : BlockSpec Float where
  lines := [{ glyphs := [⟨'A', tenWide 10 10⟩] }, { glyphs := second }]

theorem isBoxless_twoLines (second : List (GlyphSpec Float)) : (twoLines second).IsBoxless := by
  refine ⟨rfl, fun line listed => ?_⟩
  rcases List.mem_pair.mp listed with rfl | rfl <;> exact ⟨rfl, rfl⟩

/-- A block of two lines, both with a character. -/
def twoGlyphs : BlockSpec Float := twoLines [⟨'é', tenWide 5 30⟩]

theorem bounds_of_boxless_twoLines :
    twoGlyphs.IsBoxless ∧ (∀ rect ∈ twoGlyphs.boxes, rect.IsNormalized) ∧ twoGlyphs.boxes ≠ [] ∧
      ¬twoGlyphs.HasBlankLine ∧
      ∃ block, twoGlyphs.block = .ok block ∧ block.bounds = ⟨⟨5⟩, ⟨10⟩, ⟨20⟩, ⟨40⟩⟩ ∧
        block.rangeBounds? 0 (Text.byteLength block.text.toList) = some block.bounds := by
  have boxless : twoGlyphs.IsBoxless := isBoxless_twoLines _
  have normalized : ∀ rect ∈ twoGlyphs.boxes, rect.IsNormalized := by decide +kernel
  have inhabited : twoGlyphs.boxes ≠ [] := by decide +kernel
  have full : ¬twoGlyphs.HasBlankLine := by
    rintro ⟨line, listed, blank⟩
    rcases List.mem_pair.mp listed with rfl | rfl <;> cases blank
  rcases bounds_of_boxless boxless normalized inhabited with
    ⟨block, extent, meant, ranged, _, _, _, bounds, _⟩
  refine ⟨boxless, normalized, inhabited, full, block, meant, ?_, ?_⟩
  · cases boxless.block.symm.trans meant
    decide +kernel
  · rw [ranged, bounds full]

/-- A blank line draws the bounds of its block to the origin of the page, away from the
characters. -/
theorem bounds_of_boxless_fails_blank :
    (twoLines []).IsBoxless ∧ (∀ rect ∈ (twoLines []).boxes, rect.IsNormalized) ∧
      (twoLines []).boxes ≠ [] ∧
      ∃ block, (twoLines []).block = .ok block ∧ block.bounds = ⟨⟨0⟩, ⟨0⟩, ⟨20⟩, ⟨20⟩⟩ ∧
        block.rangeBounds? 0 (Text.byteLength block.text.toList) = some (tenWide 10 10) ∧
        (∀ rect ∈ (twoLines []).boxes, (tenWide 10 10).Contains rect) ∧
        ¬(tenWide 10 10).Contains block.bounds := by
  have boxless : (twoLines []).IsBoxless := isBoxless_twoLines []
  exact ⟨boxless, by decide +kernel, by decide +kernel, (twoLines []).derived, boxless.block,
    by decide +kernel, by decide +kernel, by decide +kernel, by decide +kernel⟩

end BlockSpec

end PageSketch
