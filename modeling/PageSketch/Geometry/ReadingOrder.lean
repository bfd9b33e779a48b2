import PageSketch.Geometry.Rect

/-! # Reading order

Rectangles stand in rows and columns. Two rectangles share a row if the center of
each lies within the vertical span of the other; then they are compared by column
in the same way. The comparison need not be transitive, so the sort is one that
copes with any answers. -/

namespace PageSketch

inductive HorizontalDirection where
  | leftToRight
  | rightToLeft
deriving DecidableEq, Repr

inductive VerticalDirection where
  | topToBottom
  | bottomToTop
deriving DecidableEq, Repr

structure ReadingDirection where
  vertical : VerticalDirection := .topToBottom
  horizontal : HorizontalDirection := .leftToRight
deriving DecidableEq, Repr

namespace ReadingDirection

/-- How an upper row compares to a lower one. -/
def upperRow (direction : ReadingDirection) : Ordering :=
  match direction.vertical with
  | .topToBottom => .lt
  | .bottomToTop => .gt

def leftColumn (direction : ReadingDirection) : Ordering :=
  match direction.horizontal with
  | .leftToRight => .lt
  | .rightToLeft => .gt

variable {α : Type} [Scalar α]

/-- Compares the places of two rectangles. They are equal if each covers the
center of the other. -/
def compare (direction : ReadingDirection) (a b : Rect α) : Ordering :=
  let centerA := a.center
  let centerB := b.center
  if centerA.top < b.top ∨ a.bottom < centerB.top then
    direction.upperRow
  else if centerB.top < a.top ∨ b.bottom < centerA.top then
    direction.upperRow.swap
  else if centerA.left < b.left ∨ a.right < centerB.left then
    direction.leftColumn
  else if centerB.left < a.left ∨ b.right < centerA.left then
    direction.leftColumn.swap
  else
    .eq

end ReadingDirection

/-! ## Sorting by insertion -/

section Insertion

variable {β : Type}

/-- Puts an item into a list that is written last item first: before all items at
the end that compare greater. -/
def insertFromEnd (compare : β → β → Ordering) (item : β) : List β → List β
  | [] => [item]
  | last :: earlier =>
      if compare last item = .gt then
        last :: insertFromEnd compare item earlier
      else
        item :: last :: earlier

def insertionSort (compare : β → β → Ordering) (items : List β) : List β :=
  (items.foldl (fun sorted item => insertFromEnd compare item sorted) []).reverse

end Insertion

def sortReadingOrder {α β : Type} [Scalar α] (direction : ReadingDirection)
    (bounds : β → Rect α) (items : List β) : List β :=
  insertionSort (fun a b => direction.compare (bounds a) (bounds b)) items

example : insertionSort compare [3, 1, 2] = [1, 2, 3] := by decide

end PageSketch
