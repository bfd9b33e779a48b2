import PageSketch.Proofs.GlyphRanges
import PageSketch.Proofs.PageAnalysis
import PageSketch.Proofs.PageNumbering
import PageSketch.Proofs.WholeNumbers

/-! # Where nodes are found

The element in which a node is found lies within one of the areas of the node. Bounds that
are those of the matched characters need not, since the box of a character may be anywhere:
they lie within an area exactly if the boxes of these characters do. -/

namespace PageSketch

/-! ## Bounds of matches -/

namespace TextLocator

variable {α : Type} {locator : TextLocator} {element : Element α} {found : PatternMatch}

/-- The glyphs that give a match its bounds; none if the bounds are those of the element. -/
def matchedGlyphs (locator : TextLocator) (element : Element α) (found : PatternMatch) :
    List (Glyph α) :=
  if locator.boundsFromMatch then
    (found.span? 0).elim [] fun span => element.glyphsWithin span.start span.stop
  else
    []

theorem mem_of_mem_matchedGlyphs {glyph : Glyph α}
    (matched : glyph ∈ locator.matchedGlyphs element found) :
    ∃ offset, (offset, glyph) ∈ element.placed := by
  rw [matchedGlyphs] at matched
  split at matched
  · cases spanned : found.span? 0 with
    | none =>
        rw [spanned] at matched
        cases matched
    | some span =>
        rw [spanned] at matched
        rcases List.mem_map.mp matched with ⟨⟨offset, _⟩, kept, rfl⟩
        exact ⟨offset, (List.mem_filter.mp kept).1⟩
  · cases matched

variable [Scalar α] [Scalar.Ordered α]

theorem place_eq
    (defined : ∀ glyph ∈ locator.matchedGlyphs element found, glyph.bounds.IsDefined) :
    locator.place element found =
      (Rect.unionAll? (Glyph.boxes (locator.matchedGlyphs element found))).getD
        element.bounds := by
  rw [place, matchedGlyphs] at *
  cases wanted : locator.boundsFromMatch with
  | false => rfl
  | true =>
      rw [wanted] at defined
      cases spanned : found.span? 0 with
      | none => rfl
      | some span =>
          rw [spanned] at defined
          exact congrArg (·.getD element.bounds) (Element.rangeBounds?_eq defined)

theorem place_of_matchedGlyphs_eq_nil (none : locator.matchedGlyphs element found = []) :
    locator.place element found = element.bounds := by
  rw [place_eq (by simp [none]), none]
  rfl

/-- Bounds of matched characters are as good as the boxes of these characters. -/
theorem contains_place_iff (some : locator.matchedGlyphs element found ≠ [])
    (normalized : ∀ glyph ∈ locator.matchedGlyphs element found, glyph.bounds.IsNormalized) :
    (locator.place element found).IsNormalized ∧
      ∀ outer : Rect α, outer.Contains (locator.place element found) ↔
        ∀ glyph ∈ locator.matchedGlyphs element found, outer.Contains glyph.bounds := by
  rw [place_eq fun glyph matched => (normalized glyph matched).isDefined]
  have boxes : ∀ rect ∈ Glyph.boxes (locator.matchedGlyphs element found),
      rect.IsNormalized := by
    intro rect member
    rcases List.mem_map.mp member with ⟨glyph, matched, rfl⟩
    exact normalized glyph matched
  cases united : Rect.unionAll? (Glyph.boxes (locator.matchedGlyphs element found)) with
  | none => exact absurd (List.map_eq_nil_iff.mp (Rect.unionAll?_eq_none.mp united)) some
  | some whole =>
      refine ⟨Rect.of_unionAll? boxes Rect.IsNormalized.union united, fun outer => ?_⟩
      rw [Option.getD_some, Rect.contains_unionAll?_iff boxes united, Glyph.boxes,
        List.forall_mem_map]

end TextLocator

/-! ## Elements that enclose their text -/

/-- All characters lie within the bounds of the element. -/
def Element.Encloses {α : Type} [Scalar α] (element : Element α) : Prop :=
  ∀ offset glyph, (offset, glyph) ∈ element.placed → element.bounds.Contains glyph.bounds

theorem TextLocator.contains_place_of_encloses {α : Type} [Scalar α] [Scalar.Ordered α]
    {locator : TextLocator} {element : Element α} {found : PatternMatch} {area : Rect α}
    (encloses : element.Encloses) (contained : area.Contains element.bounds) :
    area.Contains (locator.place element found) := by
  by_cases none : locator.matchedGlyphs element found = []
  · rw [place_of_matchedGlyphs_eq_nil none]
    exact contained
  · have inside : ∀ glyph ∈ locator.matchedGlyphs element found,
        element.bounds.Contains glyph.bounds := by
      intro glyph matched
      rcases mem_of_mem_matchedGlyphs matched with ⟨offset, placed⟩
      exact encloses offset glyph placed
    have place := contains_place_iff none fun glyph matched =>
      (inside glyph matched).isNormalized_inner
    exact (place.2 area).mpr fun glyph matched => contained.trans (inside glyph matched)

/-! ## Files whose boxes enclose what is in them -/

section

variable {α : Type} [Scalar α]

/-- The line as written has a character with its box. -/
def LineSpec.Means (spec : LineSpec α) (glyph : Glyph α) : Prop :=
  ∃ line, spec.line = .ok line ∧ glyph ∈ line.glyphs

/-- The boxes of characters have their edges in order, and the box of the line, if there is
one, encloses them. -/
structure LineSpec.Encloses (spec : LineSpec α) : Prop where
  normalized : ∀ glyph, spec.Means glyph → glyph.bounds.IsNormalized
  defined : ∀ box ∈ spec.box, box.IsDefined
  encloses : ∀ box ∈ spec.box, ∀ glyph, spec.Means glyph → box.Contains glyph.bounds

/-- The box of the block, if there is one, encloses the boxes of all characters as well. -/
structure BlockSpec.Encloses (spec : BlockSpec α) : Prop where
  lines : ∀ line ∈ spec.lines, line.Encloses
  encloses : ∀ box ∈ spec.box, ∀ line ∈ spec.lines, ∀ glyph, line.Means glyph →
    box.Contains glyph.bounds

def ContentSpec.Encloses (spec : ContentSpec α) : Prop :=
  ∀ page ∈ spec.pages, ∀ block ∈ page.blocks, block.Encloses

theorem exists_item_of_mapNumbered {β γ : Type} {name : String} {convert : β → Except Failure γ}
    {items : List β} {values : List γ} (mapped : mapNumbered name convert items = .ok values)
    {value : γ} (member : value ∈ values) : ∃ item ∈ items, convert item = .ok value := by
  rcases Steps.exists_step_of_mapM mapped member with ⟨⟨item, index⟩, listed, here⟩
  exact ⟨item, List.mem_of_getElem? (List.mk_mem_zipIdx_iff_getElem?.mp listed),
    Failure.atPlace_eq_ok.mp here⟩

theorem LineSpec.bounds_of_line {spec : LineSpec α} {line : Line α}
    (meant : spec.line = .ok line) :
    line.bounds = spec.box.getD (Line.ofGlyphs line.glyphs).bounds := by
  rcases spec with ⟨box?, text?, glyphs⟩
  cases text? with
  | none => cases box? <;> cases meant <;> rfl
  | some text =>
      rw [LineSpec.line] at meant
      dsimp only at meant
      split at meant
      · cases box? <;> cases meant
        rfl
      · cases meant

theorem BlockSpec.bounds_of_block {spec : BlockSpec α} {block : Block α}
    (meant : spec.block = .ok block) :
    block.bounds = spec.box.getD (Block.ofLines block.lines).bounds ∧
      ∀ line ∈ block.lines, ∃ written ∈ spec.lines, written.line = .ok line := by
  rcases spec with ⟨box?, written⟩
  rcases Steps.bind_eq_ok.mp meant with ⟨lines, mapped, built⟩
  cases box? with
  | none =>
      cases built
      exact ⟨rfl, fun line member => exists_item_of_mapNumbered mapped member⟩
  | some box =>
      cases built
      exact ⟨rfl, fun line member => exists_item_of_mapNumbered mapped member⟩

theorem PageSpec.blocks_of_page {spec : PageSpec α} {page : Page α} (meant : spec.page = .ok page)
    {block : Block α} (member : block ∈ page.blocks) :
    ∃ written ∈ spec.blocks, written.block = .ok block := by
  rw [PageSpec.page] at meant
  by_cases zero : spec.number.val = 0
  · rw [if_pos zero] at meant
    cases meant
  · rw [if_neg zero] at meant
    rcases Steps.bind_eq_ok.mp meant with ⟨blocks, mapped, equal⟩
    cases equal
    exact exists_item_of_mapNumbered mapped member

theorem ContentSpec.exists_entry_of_load {spec : ContentSpec α} {pages : List (Page α)}
    (loaded : spec.load = .ok pages) {page : Page α} (member : page ∈ pages) :
    ∃ entry ∈ spec.pages, entry.page = .ok page := by
  rcases Steps.bind_eq_ok.mp loaded with ⟨converted, mapped, sorted⟩
  have listed : page ∈ converted := by
    dsimp only at sorted
    split at sorted
    · cases sorted
    · cases sorted
      exact (Page.sortByNumber_perm converted).mem_iff.mp member
  rcases Steps.exists_step_of_mapM mapped listed with ⟨entry, written, here⟩
  exact ⟨entry, written, Failure.atPlace_eq_ok.mp here⟩

variable [Scalar.Wholes α]

theorem Rect.isDefined_zero : (Rect.zero : Rect α).IsDefined :=
  have zero : (Length.zero : Length α).IsDefined :=
    Scalar.isDefined_of_isFinite (Scalar.Wholes.isFinite_ofNat (by decide))
  Rect.isDefined_iff.mpr ⟨zero, zero, zero, zero⟩

theorem Rect.isDefined_getD_unionAll? {rects : List (Rect α)}
    (defined : ∀ rect ∈ rects, rect.IsDefined) :
    ((Rect.unionAll? rects).getD .zero).IsDefined := by
  cases united : Rect.unionAll? rects with
  | none => exact Rect.isDefined_zero
  | some whole => exact Rect.isDefined_unionAll? defined united

variable [Scalar.Ordered α]

theorem LineSpec.Encloses.line {spec : LineSpec α} (encloses : spec.Encloses) {line : Line α}
    (meant : spec.line = .ok line) :
    line.bounds.IsDefined ∧ ∀ glyph ∈ line.glyphs, line.bounds.Contains glyph.bounds := by
  have means : ∀ glyph ∈ line.glyphs, spec.Means glyph := fun _ member => ⟨line, meant, member⟩
  rw [LineSpec.bounds_of_line meant]
  cases written : spec.box with
  | some box =>
      exact ⟨encloses.defined box written,
        fun glyph member => encloses.encloses box written glyph (means glyph member)⟩
  | none =>
      have defined : ∀ rect ∈ line.glyphs.map (·.bounds), rect.IsDefined := by
        intro rect member
        rcases List.mem_map.mp member with ⟨glyph, present, rfl⟩
        exact (encloses.normalized glyph (means glyph present)).isDefined
      refine ⟨Rect.isDefined_getD_unionAll? defined, fun glyph member => ?_⟩
      exact Rect.contains_getD_unionAll? defined (List.mem_map_of_mem member)
        (Rect.contains_self (encloses.normalized glyph (means glyph member)))

theorem BlockSpec.Encloses.block {spec : BlockSpec α} (encloses : spec.Encloses)
    {block : Block α} (meant : spec.block = .ok block) :
    ∀ line ∈ block.lines, ∀ glyph ∈ line.glyphs, line.bounds.Contains glyph.bounds ∧
      block.bounds.Contains glyph.bounds := by
  rcases BlockSpec.bounds_of_block meant with ⟨bounds, lines⟩
  intro line listed glyph member
  rcases lines line listed with ⟨written, declared, here⟩
  have inside := ((encloses.lines written declared).line here).2 glyph member
  refine ⟨inside, ?_⟩
  rw [bounds]
  cases boxed : spec.box with
  | some box => exact encloses.encloses box boxed written declared glyph ⟨line, here, member⟩
  | none =>
      have defined : ∀ rect ∈ block.lines.map (·.bounds), rect.IsDefined := by
        intro rect present
        rcases List.mem_map.mp present with ⟨other, found, rfl⟩
        rcases lines other found with ⟨written, declared, here⟩
        exact ((encloses.lines written declared).line here).1
      exact Rect.contains_getD_unionAll? defined (List.mem_map_of_mem listed) inside

theorem ContentSpec.Encloses.element {spec : ContentSpec α} (encloses : spec.Encloses)
    {pages : List (Page α)} (loaded : spec.load = .ok pages) {page : Page α}
    (listed : page ∈ pages) : ∀ element ∈ page.elements, element.Encloses := by
  rcases ContentSpec.exists_entry_of_load loaded listed with ⟨entry, declared, meant⟩
  intro element member offset glyph placed
  rcases List.mem_flatMap.mp member with ⟨block, present, part⟩
  rcases PageSpec.blocks_of_page meant present with ⟨written, contained, here⟩
  have inside := (encloses entry declared written contained).block here
  rcases List.mem_cons.mp part with rfl | part
  · rcases Block.mem_of_mem_placedLines placed with ⟨line, lined, found⟩
    exact (inside line lined glyph found).2
  · rcases List.mem_map.mp part with ⟨line, lined, rfl⟩
    exact (inside line lined glyph (Glyph.mem_of_mem_placed placed)).1

end

/-! ## Nodes -/

/-- What was found is found in an element that lies within the area, and its bounds are those
of the element or of the matched characters. -/
structure TextLocator.LocatesIn {α : Type} [Scalar α] (locator : TextLocator) (area : Rect α)
    (element : Element α) (located : Located α) : Prop where
  admits : locator.Admits area element
  text : located.text = element.text
  whole : locator.matchedGlyphs element located.found = [] → located.bounds = element.bounds
  narrowed : locator.matchedGlyphs element located.found ≠ [] →
    (∀ glyph ∈ locator.matchedGlyphs element located.found, glyph.bounds.IsNormalized) →
      located.bounds.IsNormalized ∧
        ∀ outer : Rect α, outer.Contains located.bounds ↔
          ∀ glyph ∈ locator.matchedGlyphs element located.found, outer.Contains glyph.bounds

namespace Sketch

variable {α : Type} [Scalar α] [Scalar.Ordered α] [SpatialIndex α] {spec : SketchSpec α}
  {sketch : Sketch α}
  {content : ContentSpec α} {pages : List (Page α)} {page : Page α} {report : PageReport α}
  {result : NodeResult α} {located : Located α}

omit [Scalar.Ordered α] in
theorem exists_element_of_located (compiled : spec.compile = .ok sketch)
    (analyzed : sketch.analyzePage page = .ok report) (member : result ∈ report.results)
    (found : result.located = some located) :
    ∃ area ∈ result.areas, ∃ element ∈ page.elements,
      result.node.locator.Admits area element ∧ located.found.text = element.text ∧
        located.bounds = result.node.locator.place element located.found := by
  have searched := (search_of_mem (executable_of_compile compiled) analyzed member).1
  rcases SketchNode.exists_locateIn?_of_search searched found with
    ⟨area, listed, element, present, inside⟩
  rcases TextLocator.locateIn?_eq_some.mp inside with ⟨admitted, evaluated, placed⟩
  exact ⟨area, listed, element, present, admitted, PatternMatch.text_of_evaluate? evaluated,
    placed⟩

/-- A node that is found is found in an element within one of its areas. Its bounds are those
of the element unless they are those of the matched characters, and then they lie wherever the
boxes of these characters do. They lie within the area as well if boxes in the file enclose
the characters that belong to them. -/
theorem places_within_areas [Scalar.Wholes α] (loaded : content.load = .ok pages)
    (listed : page ∈ pages) (compiled : spec.compile = .ok sketch)
    (analyzed : sketch.analyzePage page = .ok report) (member : result ∈ report.results)
    (found : result.located = some located) :
    (∃ area ∈ result.areas, ∃ element ∈ page.elements,
        result.node.locator.LocatesIn area element located) ∧
      (result.node.locator.boundsFromMatch = false ∨ content.Encloses →
        located.bounds.validate = .ok () ∧
          ∃ area ∈ result.areas, area.Contains located.bounds) := by
  rcases exists_element_of_located compiled analyzed member found with
    ⟨area, searched, element, present, admitted, text, placed⟩
  constructor
  · refine ⟨area, searched, element, present, admitted, text, fun none => ?_, fun some => ?_⟩
    · rw [placed, TextLocator.place_of_matchedGlyphs_eq_nil none]
    · rw [placed]
      exact TextLocator.contains_place_iff some
  · intro condition
    have inside : area.Contains located.bounds := by
      rw [placed]
      rcases condition with whole | encloses
      · have none : result.node.locator.matchedGlyphs element located.found = [] := by
          rw [TextLocator.matchedGlyphs, whole]
          rfl
        rw [TextLocator.place_of_matchedGlyphs_eq_nil none]
        exact admitted.2
      · exact TextLocator.contains_place_of_encloses
          (encloses.element loaded listed element present) admitted.2
    exact ⟨if_pos inside.isNormalized_inner, area, searched, inside⟩

end Sketch

/-! ## The cover of an invoice -/

namespace Invoice

/-- A file with the label only. The box of its character ends at `right`. -/
def coverFile (right : Float) : ContentSpec Float where
  pages := [{
    number := (1 : UInt64).toFin
    width := 100
    height := 100
    blocks := [{
      lines := [{
        box := some ⟨⟨10⟩, ⟨10⟩, ⟨20⟩, ⟨20⟩⟩
        glyphs := [⟨'A', ⟨⟨10⟩, ⟨10⟩, ⟨right⟩, ⟨20⟩⟩⟩] }] }] }]

def cover (right : Float) : Page Float where
  number := (1 : UInt64).toFin
  size := ⟨⟨100⟩, ⟨100⟩⟩
  blocks := [{
    bounds := ⟨⟨10⟩, ⟨10⟩, ⟨20⟩, ⟨20⟩⟩
    lines := [⟨⟨⟨10⟩, ⟨10⟩, ⟨20⟩, ⟨20⟩⟩, [⟨'A', ⟨⟨10⟩, ⟨10⟩, ⟨right⟩, ⟨20⟩⟩⟩]⟩] }]

theorem load_coverFile (right : Float) : (coverFile right).load = .ok [cover right] := by
  have converts : (coverFile right).Converts := by
    intro entry member
    cases List.mem_singleton.mp member
    exact ⟨cover right, rfl⟩
  have sorted : Page.sortByNumber (coverFile right).converted = [cover right] :=
    List.mergeSort_singleton _
  refine converts.load_eq_ok.mpr ⟨?_, sorted⟩
  rw [sorted]
  rfl

/-- What is found out about the label: its bounds, and its areas. -/
def labelPlace? (page : Page Float) : Option (Rect Float × List (Rect Float)) :=
  (sketch.analyzePage page).toOption.bind fun report =>
    report.results.head?.bind fun result =>
      result.located.map fun located => (located.bounds, result.areas)

theorem exists_label {page : Page Float} {bounds : Rect Float} {areas : List (Rect Float)}
    (known : labelPlace? page = some (bounds, areas)) :
    ∃ report result located, sketch.analyzePage page = .ok report ∧ result ∈ report.results ∧
      result.located = some located ∧ located.bounds = bounds ∧ result.areas = areas := by
  rw [labelPlace?] at known
  cases analyzed : sketch.analyzePage page with
  | error failure =>
      rw [analyzed] at known
      cases known
  | ok report =>
      rw [analyzed] at known
      rcases Option.bind_eq_some_iff.mp known with ⟨_, same, entered⟩
      cases same
      rcases Option.bind_eq_some_iff.mp entered with ⟨result, first, place⟩
      rcases Option.map_eq_some_iff.mp place with ⟨located, found, equal⟩
      cases equal
      exact ⟨report, result, located, rfl, List.mem_of_head? first, found, rfl, rfl⟩

theorem encloses_coverFile : (coverFile 20).Encloses := by
  intro page listed block present
  cases List.mem_singleton.mp listed
  cases List.mem_singleton.mp present
  constructor
  · intro line written
    cases List.mem_singleton.mp written
    constructor
    · rintro glyph ⟨line, meant, member⟩
      cases meant
      cases List.mem_singleton.mp member
      decide +kernel
    · intro box boxed
      cases boxed
      have normalized : (⟨⟨10⟩, ⟨10⟩, ⟨20⟩, ⟨20⟩⟩ : Rect Float).IsNormalized := by decide +kernel
      exact normalized.isDefined
    · rintro box boxed glyph ⟨line, meant, member⟩
      cases boxed
      cases meant
      cases List.mem_singleton.mp member
      decide +kernel
  · intro box boxed
    cases boxed

end Invoice

namespace Sketch

theorem places_within_areas_cover :
    ∃ report result located, (Invoice.coverFile 20).load = .ok [Invoice.cover 20] ∧
      Invoice.spec.compile = .ok Invoice.sketch ∧
      Invoice.sketch.analyzePage (Invoice.cover 20) = .ok report ∧ result ∈ report.results ∧
      result.located = some located ∧ (Invoice.coverFile 20).Encloses ∧
      located.bounds.validate = .ok () ∧ ∃ area ∈ result.areas, area.Contains located.bounds := by
  have known : Invoice.labelPlace? (Invoice.cover 20) =
      some (⟨⟨10⟩, ⟨10⟩, ⟨20⟩, ⟨20⟩⟩, [⟨⟨0⟩, ⟨0⟩, ⟨90⟩, ⟨90⟩⟩]) := by decide +kernel
  rcases Invoice.exists_label known with ⟨report, result, located, analyzed, member, found, _⟩
  have within := places_within_areas (Invoice.load_coverFile 20) List.mem_cons_self
    Invoice.compile_spec analyzed member found
  exact ⟨report, result, located, Invoice.load_coverFile 20, Invoice.compile_spec, analyzed, member,
    found, Invoice.encloses_coverFile, within.2 (.inr Invoice.encloses_coverFile)⟩

/-- Bounds of matched characters need not lie within an area, and their edges need not be in
order, although the line in which they stand lies within one. -/
theorem narrowed_bounds_leave_areas :
    (∃ report result located, (Invoice.coverFile 200).load = .ok [Invoice.cover 200] ∧
        Invoice.spec.compile = .ok Invoice.sketch ∧
        Invoice.sketch.analyzePage (Invoice.cover 200) = .ok report ∧
        result ∈ report.results ∧ result.located = some located ∧
        located.bounds.validate = .ok () ∧
        ¬∃ area ∈ result.areas, area.Contains located.bounds) ∧
      ∃ report result located, (Invoice.coverFile 5).load = .ok [Invoice.cover 5] ∧
        Invoice.spec.compile = .ok Invoice.sketch ∧
        Invoice.sketch.analyzePage (Invoice.cover 5) = .ok report ∧
        result ∈ report.results ∧ result.located = some located ∧
        located.bounds.validate ≠ .ok () := by
  have outside : Invoice.labelPlace? (Invoice.cover 200) =
      some (⟨⟨10⟩, ⟨10⟩, ⟨200⟩, ⟨20⟩⟩, [⟨⟨0⟩, ⟨0⟩, ⟨90⟩, ⟨90⟩⟩]) := by decide +kernel
  have reversed : Invoice.labelPlace? (Invoice.cover 5) =
      some (⟨⟨10⟩, ⟨10⟩, ⟨5⟩, ⟨20⟩⟩, [⟨⟨0⟩, ⟨0⟩, ⟨90⟩, ⟨90⟩⟩]) := by decide +kernel
  constructor
  · rcases Invoice.exists_label outside with
      ⟨report, result, located, analyzed, member, found, bounds, areas⟩
    refine ⟨report, result, located, Invoice.load_coverFile 200, Invoice.compile_spec, analyzed,
      member, found, ?_⟩
    rw [bounds, areas]
    exact ⟨if_pos (by decide +kernel), by decide +kernel⟩
  · rcases Invoice.exists_label reversed with
      ⟨report, result, located, analyzed, member, found, bounds, _⟩
    refine ⟨report, result, located, Invoice.load_coverFile 5, Invoice.compile_spec, analyzed,
      member, found, ?_⟩
    rw [bounds, Rect.validate, if_neg (by decide +kernel)]
    exact nofun

end Sketch

end PageSketch
