import PageSketch.Content.Page
import PageSketch.Spec.Content

/-! # Pages from content files

Each page of a file makes sense on its own or not. The pages of a file are sorted
by number, and their numbers have to be 1 to the number of pages. -/

namespace PageSketch

inductive ContentProblem where
  | textAndGlyphs
  | missingBox (text : String)
  | zeroNumber
  | duplicateNumber (number : Nat)
  /-- Where `missing` should stand, there is a page with a larger number. -/
  | missingNumber (missing number : Nat)
deriving DecidableEq, Repr

namespace ContentProblem

def toFailure : ContentProblem → Failure
  | .textAndGlyphs => .cause (.document "line must not have both text and chars")
  | .missingBox text =>
      .cause (.document ("line " ++ Text.quoted text ++ " without chars requires a bbox"))
  | .zeroNumber => .cause (.document "page numbers are 1-based")
  | .duplicateNumber number =>
      .within ("page " ++ toString number) (.cause (.document "duplicate page number"))
  | .missingNumber missing number =>
      .within ("page " ++ toString number)
        (.cause (.document ("page " ++ toString missing ++ " is missing")))

end ContentProblem

/-- Converts items one by one up to the first failure, for which it tells the
number of the item, counted from zero. -/
def mapNumbered {β γ : Type} (name : String) (convert : β → Except Failure γ) (items : List β) :
    Except Failure (List γ) :=
  items.zipIdx.mapM fun (item, index) =>
    Failure.atPlace (name ++ " " ++ toString index) (convert item)

variable {α : Type} [Scalar α]

def GlyphSpec.glyph (spec : GlyphSpec α) : Glyph α := ⟨spec.character, spec.box⟩

/-- The line that is meant. A box counts more than the bounds of the glyphs. -/
def LineSpec.line (spec : LineSpec α) : Except Failure (Line α) :=
  let glyphs := spec.glyphs.map GlyphSpec.glyph
  match spec.text, spec.box with
  | some text, box? =>
      if spec.glyphs.isEmpty then
        match box? with
        | some box => .ok (.ofText box text)
        | none => .error (ContentProblem.missingBox text).toFailure
      else
        .error ContentProblem.textAndGlyphs.toFailure
  | none, some box => .ok { bounds := box, glyphs }
  | none, none => .ok (.ofGlyphs glyphs)

/-- The block that is meant. A box counts more than the bounds of the lines. -/
def BlockSpec.block (spec : BlockSpec α) : Except Failure (Block α) := do
  let lines ← mapNumbered "line" LineSpec.line spec.lines
  match spec.box with
  | some box => return { bounds := box, lines }
  | none => return .ofLines lines

def PageSpec.page (spec : PageSpec α) : Except Failure (Page α) := do
  if spec.number.val = 0 then
    throw ContentProblem.zeroNumber.toFailure
  let blocks ← mapNumbered "block" BlockSpec.block spec.blocks
  return { number := spec.number, size := ⟨⟨spec.width⟩, ⟨spec.height⟩⟩, blocks }

namespace Page

/-- Sorts pages by number. Pages with the same number keep their order. -/
def sortByNumber (pages : List (Page α)) : List (Page α) :=
  pages.mergeSort fun a b => a.number ≤ b.number

/-- The first page of a sorted list that has not the number it should have, where
the list should begin with `next`. -/
def numberingProblem? (next : Nat) : List (Page α) → Option ContentProblem
  | [] => none
  | page :: rest =>
      if page.number.val = next then numberingProblem? (next + 1) rest
      else if page.number.val < next then some (.duplicateNumber page.number)
      else some (.missingNumber next page.number)

end Page

def ContentSpec.load (spec : ContentSpec α) : Except Failure (List (Page α)) := do
  let pages ← spec.pages.mapM fun page =>
    Failure.atPlace ("page " ++ toString page.number.val) page.page
  let sorted := Page.sortByNumber pages
  match Page.numberingProblem? 1 sorted with
  | some problem => throw problem.toFailure
  | none => return sorted

end PageSketch
