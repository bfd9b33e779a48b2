import PageSketch.Proofs.JsonFormats
import PageSketch.Spec.Content
import PageSketch.Spec.Sketch

/-! # The formats of sketches and contents

Sketches and contents whose numbers are finite are read as they were written. What has been
read from a text is of this kind, so that it can be written and read again. -/

namespace PageSketch

/-! ## Lengths -/

namespace UnitMap

variable {α : Type}

theorem insertEntry_last {unit : String} {value : α} {entries : List (String × α)}
    (above : ∀ entry ∈ entries, entry.1 < unit) :
    insertEntry unit value entries = entries ++ [(unit, value)] := by
  induction entries with
  | nil => rfl
  | cons entry rest induction =>
      rcases List.forall_mem_cons.mp above with ⟨first, others⟩
      rw [insertEntry, if_neg (String.lt_asymm first), if_neg (String.ne_of_lt first).symm,
        induction others, List.cons_append]

theorem entries_foldl_insert {map : UnitMap α} {rest : List (String × α)}
    (increasing : ((map.entries ++ rest).map (·.1)).Pairwise (· < ·)) :
    (rest.foldl (fun map (unit, value) => map.insert unit value) map).entries =
      map.entries ++ rest := by
  induction rest generalizing map with
  | nil => exact (List.append_nil map.entries).symm
  | cons entry rest induction =>
      rcases entry with ⟨unit, value⟩
      have above : ∀ entry ∈ map.entries, entry.1 < unit := by
        rw [List.map_append, List.pairwise_append] at increasing
        intro entry member
        exact increasing.2.2 entry.1 (List.mem_map_of_mem member) unit (by simp)
      have grown : (map.insert unit value).entries = map.entries ++ [(unit, value)] :=
        insertEntry_last above
      rw [List.append_cons, ← grown] at increasing ⊢
      exact induction increasing

/-- Entries that are in order stay as they are. -/
theorem ofEntries_entries (map : UnitMap α) : ofEntries map.entries = map := by
  have same : (ofEntries map.entries).entries = map.entries := entries_foldl_insert map.increasing
  generalize ofEntries map.entries = other at same ⊢
  rcases other with ⟨entries, increasing⟩
  cases same
  rfl

theorem mem_insertEntry {unit : String} {value : α} {entries : List (String × α)}
    {entry : String × α} (member : entry ∈ insertEntry unit value entries) :
    entry = (unit, value) ∨ entry ∈ entries := by
  induction entries with
  | nil => exact .inl (List.mem_singleton.mp member)
  | cons first rest induction =>
      rw [insertEntry] at member
      split at member
      · exact List.mem_cons.mp member
      · split at member
        · exact (List.mem_cons.mp member).imp_right (List.mem_cons_of_mem first)
        · rcases List.mem_cons.mp member with rfl | later
          · exact .inr List.mem_cons_self
          · exact (induction later).imp_right (List.mem_cons_of_mem first)

theorem mem_ofEntries {entries : List (String × α)} {entry : String × α}
    (member : entry ∈ (ofEntries entries).entries) : entry ∈ entries := by
  have inserted : ∀ map : UnitMap α,
      entry ∈ (entries.foldl (fun map (unit, value) => map.insert unit value) map).entries →
        entry ∈ map.entries ∨ entry ∈ entries := by
    clear member
    induction entries with
    | nil => exact fun map => .inl
    | cons first rest induction =>
        intro map member
        rcases induction (map.insert first.1 first.2) member with here | later
        · rcases mem_insertEntry here with rfl | before
          · exact .inr List.mem_cons_self
          · exact .inl before
        · exact .inr (List.mem_cons_of_mem first later)
  rcases inserted empty member with none | here
  · cases none
  · exact here

end UnitMap

open Json (Format)

section

variable {α : Type} [Scalar α]

def LengthSpec.IsFinite : LengthSpec α → Prop
  | .text _ => True
  | .units map => ∀ entry ∈ map.entries, Scalar.isFinite entry.2 = true

structure PointSpec.IsFinite (spec : PointSpec α) : Prop where
  left : ∀ length ∈ spec.left, length.IsFinite
  top : ∀ length ∈ spec.top, length.IsFinite

structure SizeSpec.IsFinite (spec : SizeSpec α) : Prop where
  width : ∀ length ∈ spec.width, length.IsFinite
  height : ∀ length ∈ spec.height, length.IsFinite

variable [Scalar.Wholes α]

theorem LengthSpec.format : Format (encode : LengthSpec α → Json α) decode? IsFinite where
  restores {spec} finite := by
    cases spec with
    | text written => rfl
    | units map =>
        have decoded : (map.entries.map fun (unit, value) => (unit, Json.ofReal value)).mapM
            decodeEntry? = some map.entries := by
          rw [Json.mapM_eq_some, List.forall₂_map_left_iff]
          refine List.forall₂_same.mpr fun entry member => ?_
          rw [ decodeEntry?, Format.real.restores (finite entry member)]
          rfl
        rw [encode, decode?, decoded, Option.map_some, UnitMap.ofEntries_entries]
  notNull {spec} _ := by cases spec <;> exact nofun
  fine {json spec} finite read := by
    cases finite with
    | text =>
        cases read
        trivial
    | object each =>
        rcases Option.map_eq_some_iff.mp read with ⟨entries, decoded, rfl⟩
        intro entry member
        rcases Json.exists_of_mapM decoded (UnitMap.mem_ofEntries member) with
          ⟨⟨unit, json⟩, listed, here⟩
        rcases Option.map_eq_some_iff.mp here with ⟨value, number, rfl⟩
        exact Format.real.fine (each unit json listed) number
    | _ => cases read

theorem PointSpec.format : Format (encode : PointSpec α → Json α) decode? IsFinite := by
  have length := (@LengthSpec.format α _ _).optional
  refine Format.record (fun _ => rfl) (by decide) (fun finite => ?_) (fun finite built => ?_)
  · dsimp only [List.map]
    rw [length.restores finite.left, length.restores finite.top]
    rfl
  · split at built
    · simp only [bind, pure, Option.bind_eq_some_iff, Option.some.injEq] at built
      rcases built with ⟨left, readLeft, top, readTop, rfl⟩
      exact ⟨length.fine (finite _ (by simp)) readLeft, length.fine (finite _ (by simp)) readTop⟩
    · cases built

theorem SizeSpec.format : Format (encode : SizeSpec α → Json α) decode? IsFinite := by
  have length := (@LengthSpec.format α _ _).optional
  refine Format.record (fun _ => rfl) (by decide) (fun finite => ?_) (fun finite built => ?_)
  · dsimp only [List.map]
    rw [length.restores finite.width, length.restores finite.height]
    rfl
  · split at built
    · simp only [bind, pure, Option.bind_eq_some_iff, Option.some.injEq] at built
      rcases built with ⟨width, readWidth, height, readHeight, rfl⟩
      exact ⟨length.fine (finite _ (by simp)) readWidth,
        length.fine (finite _ (by simp)) readHeight⟩
    · cases built

end

/-! ## Areas -/

section

variable {α : Type} [Scalar α]

theorem Feature.format : Format (encode : Feature → Json α) decode? fun _ => True where
  restores {feature} _ := by cases feature <;> rfl
  notNull _ := nofun
  fine _ _ := trivial

section

variable {Absolute Offset : Type} {encodeAbsolute : Absolute → Json α}
  {decodeAbsolute : Json α → Option Absolute} {FineAbsolute : Absolute → Prop}
  {encodeOffset : Offset → Json α} {decodeOffset : Json α → Option Offset}
  {FineOffset : Offset → Prop}

structure RelativeSpec.IsFinite (FineOffset : Offset → Prop) (spec : RelativeSpec Offset) :
    Prop where
  offset : ∀ offset ∈ spec.offset, FineOffset offset

theorem RelativeSpec.format (offset : Format encodeOffset decodeOffset FineOffset) :
    Format (encode encodeOffset) (decode? decodeOffset) (IsFinite FineOffset) := by
  have text := (@Format.text α).defaulted "" trivial
  have feature := (@Feature.format α).defaulted .unspecified trivial
  replace offset := offset.optional
  refine Format.record (fun _ => rfl) (by decide) (fun finite => ?_) (fun finite built => ?_)
  · dsimp only [List.map]
    rw [text.restores trivial, feature.restores trivial, offset.restores finite.offset]
    rfl
  · split at built
    · simp only [bind, pure, Option.bind_eq_some_iff, Option.some.injEq] at built
      rcases built with ⟨node, _, feature, _, shift, readShift, rfl⟩
      exact ⟨offset.fine (finite _ (by simp)) readShift⟩
    · cases built

structure PlaceSpec.IsFinite (FineAbsolute : Absolute → Prop) (FineOffset : Offset → Prop)
    (spec : PlaceSpec Absolute Offset) : Prop where
  abs : ∀ place ∈ spec.abs, FineAbsolute place
  rel : ∀ place ∈ spec.rel, place.IsFinite FineOffset

theorem PlaceSpec.format (absolute : Format encodeAbsolute decodeAbsolute FineAbsolute)
    (offset : Format encodeOffset decodeOffset FineOffset) :
    Format (encode encodeAbsolute encodeOffset) (decode? decodeAbsolute decodeOffset)
      (IsFinite FineAbsolute FineOffset) := by
  replace absolute := absolute.optional
  have relative := (RelativeSpec.format offset).optional
  refine Format.record (fun _ => rfl) (by decide) (fun finite => ?_) (fun finite built => ?_)
  · dsimp only [List.map]
    rw [absolute.restores finite.abs, relative.restores finite.rel]
    rfl
  · split at built
    · simp only [bind, pure, Option.bind_eq_some_iff, Option.some.injEq] at built
      rcases built with ⟨abs, readAbs, rel, readRel, rfl⟩
      exact ⟨absolute.fine (finite _ (by simp)) readAbs,
        relative.fine (finite _ (by simp)) readRel⟩
    · cases built

end

def EdgeSpec.IsFinite (spec : EdgeSpec α) : Prop :=
  PlaceSpec.IsFinite LengthSpec.IsFinite LengthSpec.IsFinite spec

def CornerSpec.IsFinite (spec : CornerSpec α) : Prop :=
  PlaceSpec.IsFinite PointSpec.IsFinite SizeSpec.IsFinite spec

structure AreaSpec.IsFinite (spec : AreaSpec α) : Prop where
  top : ∀ edge ∈ spec.top, EdgeSpec.IsFinite edge
  right : ∀ edge ∈ spec.right, EdgeSpec.IsFinite edge
  bottom : ∀ edge ∈ spec.bottom, EdgeSpec.IsFinite edge
  left : ∀ edge ∈ spec.left, EdgeSpec.IsFinite edge
  topLeft : ∀ corner ∈ spec.topLeft, CornerSpec.IsFinite corner
  topRight : ∀ corner ∈ spec.topRight, CornerSpec.IsFinite corner
  bottomLeft : ∀ corner ∈ spec.bottomLeft, CornerSpec.IsFinite corner
  bottomRight : ∀ corner ∈ spec.bottomRight, CornerSpec.IsFinite corner
  width : ∀ length ∈ spec.width, length.IsFinite
  height : ∀ length ∈ spec.height, length.IsFinite

variable [Scalar.Wholes α]

theorem EdgeSpec.format : Format (encode : EdgeSpec α → Json α) decode? IsFinite :=
  PlaceSpec.format LengthSpec.format LengthSpec.format

theorem CornerSpec.format : Format (encode : CornerSpec α → Json α) decode? IsFinite :=
  PlaceSpec.format PointSpec.format SizeSpec.format

theorem AreaSpec.format : Format (encode : AreaSpec α → Json α) decode? IsFinite := by
  have edge := (@EdgeSpec.format α _ _).optional
  have corner := (@CornerSpec.format α _ _).optional
  have length := (@LengthSpec.format α _ _).optional
  refine Format.record (fun _ => rfl) (by decide) (fun finite => ?_) (fun finite built => ?_)
  · dsimp only [List.map]
    rw [edge.restores finite.top, edge.restores finite.right, edge.restores finite.bottom,
      edge.restores finite.left, corner.restores finite.topLeft, corner.restores finite.topRight,
      corner.restores finite.bottomLeft, corner.restores finite.bottomRight,
      length.restores finite.width, length.restores finite.height]
    rfl
  · split at built
    · simp only [bind, pure, Option.bind_eq_some_iff, Option.some.injEq] at built
      rcases built with ⟨top, readTop, right, readRight, bottom, readBottom, left, readLeft,
        topLeft, readTopLeft, topRight, readTopRight, bottomLeft, readBottomLeft, bottomRight,
        readBottomRight, width, readWidth, height, readHeight, rfl⟩
      exact {
        top := edge.fine (finite _ (by simp)) readTop
        right := edge.fine (finite _ (by simp)) readRight
        bottom := edge.fine (finite _ (by simp)) readBottom
        left := edge.fine (finite _ (by simp)) readLeft
        topLeft := corner.fine (finite _ (by simp)) readTopLeft
        topRight := corner.fine (finite _ (by simp)) readTopRight
        bottomLeft := corner.fine (finite _ (by simp)) readBottomLeft
        bottomRight := corner.fine (finite _ (by simp)) readBottomRight
        width := length.fine (finite _ (by simp)) readWidth
        height := length.fine (finite _ (by simp)) readHeight }
    · cases built

end

/-! ## Sketches -/

section

variable {α : Type} [Scalar α]

theorem MatcherSpec.format : Format (encode : MatcherSpec → Json α) decode? fun _ => True := by
  have text := (@Format.text α).defaulted "" trivial
  have bool := (@Format.bool α).defaulted false trivial
  refine Format.record (fun _ => rfl) (by decide) (fun _ => ?_) (fun _ _ => trivial)
  dsimp only [List.map]
  rw [text.restores trivial, bool.restores trivial]
  rfl

structure NodeSpec.IsFinite (spec : NodeSpec α) : Prop where
  searchAreas : ∀ area ∈ spec.searchAreas, area.IsFinite

structure SketchSpec.IsFinite (spec : SketchSpec α) : Prop where
  nodes : ∀ node ∈ spec.nodes, node.IsFinite

variable [Scalar.Wholes α]

theorem NodeSpec.format : Format (encode : NodeSpec α → Json α) decode? IsFinite := by
  have name := (@Format.text α).defaulted "" trivial
  have areas := (@AreaSpec.format α _ _).nonempty
  have matcher := (@MatcherSpec.format α).optional
  have tags := (@Format.text α).nonempty
  refine Format.record (fun _ => rfl) (by decide) (fun finite => ?_) (fun finite built => ?_)
  · dsimp only [List.map]
    rw [name.restores trivial, areas.restores finite.searchAreas,
      matcher.restores fun _ _ => trivial, matcher.restores fun _ _ => trivial,
      tags.restores fun _ _ => trivial]
    rfl
  · split at built
    · simp only [bind, pure, Option.bind_eq_some_iff, Option.some.injEq] at built
      rcases built with ⟨name, _, searchAreas, readAreas, blockText, _, lineText, _, tags, _, rfl⟩
      exact ⟨areas.fine (finite _ (by simp)) readAreas⟩
    · cases built

theorem SketchSpec.format : Format (encode : SketchSpec α → Json α) decode? IsFinite := by
  have tags := (@Format.text α).nonempty
  have nodes := (@NodeSpec.format α _ _).nonempty
  refine Format.record (fun _ => rfl) (by decide) (fun finite => ?_) (fun finite built => ?_)
  · dsimp only [List.map]
    rw [tags.restores fun _ _ => trivial, nodes.restores finite.nodes]
    rfl
  · split at built
    · simp only [bind, pure, Option.bind_eq_some_iff, Option.some.injEq] at built
      rcases built with ⟨tags, _, written, readNodes, rfl⟩
      exact ⟨nodes.fine (finite _ (by simp)) readNodes⟩
    · cases built

end

/-! ## Contents -/

section

variable {α : Type} [Scalar α]

theorem PageSpec.numberFormat :
    Format (fun number : PageNumber => (.integer number.val : Json α)) number? fun _ => True where
  restores {number} _ := by
    have whole : Json.natural? (.integer number.val : Json α) = some number.val :=
      if_pos ⟨Int.natCast_nonneg _, number.isLt⟩
    rw [number?, whole]
    exact dif_pos number.isLt
  notNull _ := nofun
  fine _ _ := trivial

structure GlyphSpec.IsFinite (spec : GlyphSpec α) : Prop where
  box : spec.box.IsFinite

structure LineSpec.IsFinite (spec : LineSpec α) : Prop where
  box : ∀ box ∈ spec.box, box.IsFinite
  glyphs : ∀ glyph ∈ spec.glyphs, glyph.IsFinite

structure BlockSpec.IsFinite (spec : BlockSpec α) : Prop where
  box : ∀ box ∈ spec.box, box.IsFinite
  lines : ∀ line ∈ spec.lines, line.IsFinite

structure PageSpec.IsFinite (spec : PageSpec α) : Prop where
  width : Scalar.isFinite spec.width = true
  height : Scalar.isFinite spec.height = true
  blocks : ∀ block ∈ spec.blocks, block.IsFinite

structure ContentSpec.IsFinite (spec : ContentSpec α) : Prop where
  pages : ∀ page ∈ spec.pages, page.IsFinite

variable [Scalar.Wholes α]

theorem Rect.format : Format (encode : Rect α → Json α) decode? IsFinite where
  restores {rect} finite := by
    have edges : ∀ edge ∈ [rect.left.points, rect.top.points, rect.right.points,
        rect.bottom.points], Scalar.isFinite edge = true := by
      simp only [List.forall_mem_cons, List.not_mem_nil, false_implies, implies_true, and_true]
      exact ⟨finite .left, finite .top, finite .right, finite .bottom⟩
    rw [encode, decode?, Format.real.list.restores edges]
    rfl
  notNull _ := nofun
  fine {json rect} finite read := by
    rcases Option.bind_eq_some_iff.mp read with ⟨edges, decoded, built⟩
    have fine := Format.real.list.fine finite decoded
    split at built
    · cases built
      rintro (_ | _ | _ | _) <;> exact fine _ (by simp [side])
    · cases built

theorem GlyphSpec.format : Format (encode : GlyphSpec α → Json α) decode? IsFinite := by
  have character := (@Format.character α).required
  have box := (@Rect.format α _ _).required
  refine Format.record (fun _ => rfl) (by decide) (fun finite => ?_) (fun finite built => ?_)
  · dsimp only [List.map]
    rw [character.restores trivial, box.restores finite.box]
    rfl
  · split at built
    · simp only [bind, pure, Option.bind_eq_some_iff, Option.some.injEq] at built
      rcases built with ⟨character, _, rect, readBox, rfl⟩
      exact ⟨box.fine (finite _ (by simp)) readBox⟩
    · cases built

theorem LineSpec.format : Format (encode : LineSpec α → Json α) decode? IsFinite := by
  have box := (@Rect.format α _ _).optional
  have text := (@Format.text α).optional
  have glyphs := (@GlyphSpec.format α _ _).nonempty
  refine Format.record (fun _ => rfl) (by decide) (fun finite => ?_) (fun finite built => ?_)
  · dsimp only [List.map]
    rw [box.restores finite.box, text.restores fun _ _ => trivial, glyphs.restores finite.glyphs]
    rfl
  · split at built
    · simp only [bind, pure, Option.bind_eq_some_iff, Option.some.injEq] at built
      rcases built with ⟨rect, readBox, text, _, written, readGlyphs, rfl⟩
      exact ⟨box.fine (finite _ (by simp)) readBox, glyphs.fine (finite _ (by simp)) readGlyphs⟩
    · cases built

theorem BlockSpec.format : Format (encode : BlockSpec α → Json α) decode? IsFinite := by
  have box := (@Rect.format α _ _).optional
  have lines := (@LineSpec.format α _ _).list.defaulted [] nofun
  refine Format.record (fun _ => rfl) (by decide) (fun finite => ?_) (fun finite built => ?_)
  · dsimp only [List.map]
    rw [box.restores finite.box, lines.restores finite.lines]
    rfl
  · split at built
    · simp only [bind, pure, Option.bind_eq_some_iff, Option.some.injEq] at built
      rcases built with ⟨rect, readBox, written, readLines, rfl⟩
      exact ⟨box.fine (finite _ (by simp)) readBox, lines.fine (finite _ (by simp)) readLines⟩
    · cases built

theorem PageSpec.format : Format (encode : PageSpec α → Json α) decode? IsFinite := by
  have number := (@PageSpec.numberFormat α).required
  have size := (@Format.real α _ _).required
  have blocks := (@BlockSpec.format α _ _).list.defaulted [] nofun
  refine Format.record (fun _ => rfl) (by decide) (fun finite => ?_) (fun finite built => ?_)
  · dsimp only [List.map]
    rw [number.restores trivial, size.restores finite.width, size.restores finite.height,
      blocks.restores finite.blocks]
    rfl
  · split at built
    · simp only [bind, pure, Option.bind_eq_some_iff, Option.some.injEq] at built
      rcases built with ⟨number, _, width, readWidth, height, readHeight, written, readBlocks,
        rfl⟩
      exact ⟨size.fine (finite _ (by simp)) readWidth, size.fine (finite _ (by simp)) readHeight,
        blocks.fine (finite _ (by simp)) readBlocks⟩
    · cases built

theorem ContentSpec.format : Format (encode : ContentSpec α → Json α) decode? IsFinite := by
  have pages := (@PageSpec.format α _ _).list.defaulted [] nofun
  refine Format.record (fun _ => rfl) (by decide) (fun finite => ?_) (fun finite built => ?_)
  · dsimp only [List.map]
    rw [pages.restores finite.pages]
    rfl
  · split at built
    · simp only [bind, pure, Option.bind_eq_some_iff, Option.some.injEq] at built
      rcases built with ⟨written, readPages, rfl⟩
      exact ⟨pages.fine (finite _ (by simp)) readPages⟩
    · cases built

end

/-! ## Files -/

/-- Sketches and contents whose numbers are finite are read as they were written. This applies
to all that have been read from values whose numbers are finite, as those of texts are. -/
theorem specs_restored (α : Type) [Scalar α] [Scalar.Wholes α] :
    (∀ spec : SketchSpec α, spec.IsFinite → SketchSpec.decode? spec.encode = some spec) ∧
      (∀ spec : ContentSpec α, spec.IsFinite → ContentSpec.decode? spec.encode = some spec) ∧
      (∀ json : Json α, json.IsFinite →
        (∀ spec, SketchSpec.decode? json = some spec →
            spec.IsFinite ∧ SketchSpec.decode? spec.encode = some spec) ∧
          ∀ spec, ContentSpec.decode? json = some spec →
            spec.IsFinite ∧ ContentSpec.decode? spec.encode = some spec) ∧
      ∀ (text : String) (json : Json α), Json.ofString? text = some json → json.IsFinite := by
  refine ⟨fun _ => SketchSpec.format.restores, fun _ => ContentSpec.format.restores,
    fun json finite => ⟨fun spec read => ?_, fun spec read => ?_⟩,
    fun _ _ => Json.isFinite_of_ofString?⟩
  · have fine := SketchSpec.format.fine finite read
    exact ⟨fine, SketchSpec.format.restores fine⟩
  · have fine := ContentSpec.format.fine finite read
    exact ⟨fine, ContentSpec.format.restores fine⟩

/-! ## A draft -/

namespace Draft

/-- A sketch with lengths in all forms, a field that is null and a list that is empty. -/
def sketchText : String :=
  "\x7b\"nodes\":[\x7b\"name\":\"a\",\"tags\":[],\"block_text\":null,\"search_areas\":["
    ++ "\x7b\"left\":\x7b\"abs\":\"1cm\"\x7d,\"width\":\x7b\"pt\":2.5\x7d,\"height\":\x7b\x7d\x7d]\x7d]\x7d"

def sketch : SketchSpec Float where
  nodes := [{
    name := "a"
    searchAreas := [{
      left := some (.absolute (.text "1cm"))
      width := some (.ofUnit .pt 2.5)
      height := some (.units .empty) }] }]

/-- A file in which a page is an array of its fields. -/
def contentText : String :=
  "\x7b\"pages\":[[1,10,20,[\x7b\"lines\":[\x7b\"bbox\":[0,0,1.5,2],\"text\":\"A\"\x7d]\x7d]]]\x7d"

def content : ContentSpec Float where
  pages := [{
    number := (1 : UInt64).toFin
    width := 10
    height := 20
    blocks := [{ lines := [{ box := some ⟨⟨0⟩, ⟨0⟩, ⟨1.5⟩, ⟨2⟩⟩, text := some "A" }] }] }]

end Draft

theorem specs_restored_draft :
    (∃ json : Json Float, Json.ofString? Draft.sketchText = some json ∧ json.IsFinite ∧
        SketchSpec.decode? json = some Draft.sketch ∧ Draft.sketch.IsFinite ∧
        SketchSpec.decode? Draft.sketch.encode = some Draft.sketch) ∧
      ∃ json : Json Float, Json.ofString? Draft.contentText = some json ∧ json.IsFinite ∧
        ContentSpec.decode? json = some Draft.content ∧ Draft.content.IsFinite ∧
        ContentSpec.decode? Draft.content.encode = some Draft.content := by
  rcases specs_restored Float with ⟨sketches, contents, documents, texts⟩
  have sketch : (Json.ofString? Draft.sketchText).bind SketchSpec.decode? = some Draft.sketch := by
    decide +kernel
  have content : (Json.ofString? Draft.contentText).bind ContentSpec.decode? =
      some Draft.content := by decide +kernel
  rcases Option.bind_eq_some_iff.mp sketch with ⟨json, text, read⟩
  rcases Option.bind_eq_some_iff.mp content with ⟨json', text', read'⟩
  have finite := texts _ _ text
  have finite' := texts _ _ text'
  have fine := ((documents json finite).1 _ read).1
  have fine' := ((documents json' finite').2 _ read').1
  exact ⟨⟨json, text, finite, read, fine, sketches _ fine⟩,
    json', text', finite', read', fine', contents _ fine'⟩

end PageSketch
