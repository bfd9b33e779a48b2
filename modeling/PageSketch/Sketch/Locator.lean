import PageSketch.Content.Index
import PageSketch.Pattern.Match
import PageSketch.Spec.Sketch

/-! # Locating text

A locator looks within an area for a block or a line whose text matches a
pattern. -/

namespace PageSketch

structure TextLocator where
  kind : ElementKind
  pattern : Pattern
  /-- The place that is found is that of the matched characters only. -/
  boundsFromMatch : Bool

structure Located (α : Type) where
  bounds : Rect α
  found : PatternMatch

namespace Located

/-- The whole text of the element. -/
def text {α : Type} (located : Located α) : String := located.found.text

end Located

namespace TextLocator

def ofSpec (kind : ElementKind) (spec : MatcherSpec) : Except Failure TextLocator :=
  (Pattern.compile spec.regex).map fun pattern =>
    { kind, pattern, boundsFromMatch := spec.boundsFromMatch }

variable {α : Type} [Scalar α]

def Admits (locator : TextLocator) (area : Rect α) (element : Element α) : Prop :=
  element.kind = locator.kind ∧ area.Contains element.bounds

instance (locator : TextLocator) (area : Rect α) (element : Element α) :
    Decidable (locator.Admits area element) :=
  inferInstanceAs (Decidable (_ ∧ _))

/-- The place of a match in an element. If no character that matched has a place,
it is that of the whole element. -/
def place (locator : TextLocator) (element : Element α) (found : PatternMatch) : Rect α :=
  let matched? : Option (Rect α) :=
    if locator.boundsFromMatch then
      (found.span? 0).bind fun span => element.rangeBounds? span.start span.stop
    else
      none
  matched?.getD element.bounds

def locateIn? (locator : TextLocator) (area : Rect α) (element : Element α) :
    Option (Located α) :=
  if locator.Admits area element then
    (PatternMatch.evaluate? locator.pattern element.text).map fun found =>
      { bounds := locator.place element found, found }
  else
    none

/-- What is found on a page within an area: in the first element with which the index
answers that suits. -/
def locate? [SpatialIndex α] (locator : TextLocator) (page : Page α) (area : Rect α) :
    Option (Located α) :=
  (page.meeting area).findSome? (locator.locateIn? area)

end TextLocator

end PageSketch
