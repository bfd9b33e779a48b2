import Mathlib.Data.Set.Basic
import PageSketch.Geometry.ReadingOrder
import PageSketch.Proofs.Midpoints
import PageSketch.Proofs.RectUnion

/-! # Comparing places

When two rectangles are swapped, their places compare in the opposite way, if the centers of both
lie between their own edges. For finite rectangles, that is to say that they are normalized and
that their extents are finite. All others do not even compare equal to themselves. -/

namespace PageSketch

/-! ## One axis -/

/-- The edges of a rectangle on one axis, with its center. -/
structure Span (α : Type) where
  start : Length α
  center : Length α
  stop : Length α

namespace Span

variable {α : Type} [Scalar α] {a b : Span α}

/-- The center of the first one lies before the second one, or the first one before the center of
the second one. -/
def Before (a b : Span α) : Prop := a.center < b.start ∨ a.stop < b.center

instance : Decidable (a.Before b) := inferInstanceAs (Decidable (_ ∨ _))

/-- The center lies between the edges. -/
def IsCentered (span : Span α) : Prop := span.start ≤ span.center ∧ span.center ≤ span.stop

variable [Scalar.Ordered α]

theorem Before.center_lt (before : a.Before b) (centeredA : a.IsCentered)
    (centeredB : b.IsCentered) : a.center < b.center := by
  rcases before with before | before
  · exact Length.lt_of_lt_of_le before centeredB.1
  · exact Length.lt_of_le_of_lt centeredA.2 before

theorem Before.asymm (before : a.Before b) (centeredA : a.IsCentered) (centeredB : b.IsCentered) :
    ¬b.Before a := by
  intro after
  have backward := Length.le_of_lt (after.center_lt centeredB centeredA)
  exact Length.not_lt_of_le backward (before.center_lt centeredA centeredB)

/-- What lies before itself is what is not centered. -/
theorem not_before_self_iff (start : a.start.IsDefined) (center : a.center.IsDefined)
    (stop : a.stop.IsDefined) : ¬a.Before a ↔ a.IsCentered := by
  rw [Before, not_or]
  constructor
  · rintro ⟨above, below⟩
    exact ⟨Length.le_of_not_lt center start above, Length.le_of_not_lt stop center below⟩
  · rintro ⟨above, below⟩
    exact ⟨Length.not_lt_of_le above, Length.not_lt_of_le below⟩

end Span

/-! ## Both axes -/

namespace Rect

variable {α : Type} [Scalar α] {rect : Rect α}

def across (rect : Rect α) : Span α := ⟨rect.left, rect.center.left, rect.right⟩

def down (rect : Rect α) : Span α := ⟨rect.top, rect.center.top, rect.bottom⟩

/-- The center lies between the edges. -/
def IsCentered (rect : Rect α) : Prop := rect.down.IsCentered ∧ rect.across.IsCentered

/-- The width and the height are finite. -/
def HasFiniteSize (rect : Rect α) : Prop :=
  rect.width.isFinite = true ∧ rect.height.isFinite = true

theorem isCentered_iff [Scalar.Halving α] (finite : rect.IsFinite) :
    rect.IsCentered ↔ rect.IsNormalized ∧ rect.HasFiniteSize := by
  have down : rect.down.IsCentered ↔ _ := Scalar.Halving.middle_iff (finite .top) (finite .bottom)
  have across : rect.across.IsCentered ↔ _ :=
    Scalar.Halving.middle_iff (finite .left) (finite .right)
  rw [IsCentered, down, across, and_comm]
  exact and_and_and_comm

end Rect

namespace ReadingDirection

variable {α : Type} [Scalar α] {direction : ReadingDirection} {a b : Rect α}

theorem compare_eq (direction : ReadingDirection) (a b : Rect α) :
    direction.compare a b =
      if a.down.Before b.down then direction.upperRow
      else if b.down.Before a.down then direction.upperRow.swap
      else if a.across.Before b.across then direction.leftColumn
      else if b.across.Before a.across then direction.leftColumn.swap
      else .eq := rfl

/-- A decision between two sides that exclude each other turns around when they are swapped. -/
theorem ite_swap {p q : Prop} [Decidable p] [Decidable q] (apart : p → ¬q)
    (first rest : Ordering) :
    (if q then first else if p then first.swap else rest.swap) =
      (if p then first else if q then first.swap else rest).swap := by
  by_cases before : p
  · rw [if_neg (apart before), if_pos before, if_pos before]
  · rw [if_neg before, if_neg before]
    by_cases after : q
    · rw [if_pos after, if_pos after, Ordering.swap_swap]
    · rw [if_neg after, if_neg after]

theorem compare_self_eq_iff :
    direction.compare a a = .eq ↔ ¬a.down.Before a.down ∧ ¬a.across.Before a.across := by
  have row : direction.upperRow ≠ .eq := by
    rw [upperRow]
    cases direction.vertical <;> decide
  have column : direction.leftColumn ≠ .eq := by
    rw [leftColumn]
    cases direction.horizontal <;> decide
  rw [compare_eq]
  by_cases down : a.down.Before a.down
  · rw [if_pos down]
    exact iff_of_false row fun both => both.1 down
  · rw [if_neg down, if_neg down]
    by_cases across : a.across.Before a.across
    · rw [if_pos across]
      exact iff_of_false column fun both => both.2 across
    · rw [if_neg across, if_neg across]
      exact iff_of_true rfl ⟨down, across⟩

theorem compare_self_eq_of_swap (swap : direction.compare a a = (direction.compare a a).swap) :
    direction.compare a a = .eq := by
  generalize direction.compare a a = order at swap
  cases order with
  | lt => cases swap
  | eq => rfl
  | gt => cases swap

variable [Scalar.Ordered α]

theorem compare_swap (centeredA : a.IsCentered) (centeredB : b.IsCentered) :
    direction.compare b a = (direction.compare a b).swap := by
  rw [compare_eq, compare_eq, ← ite_swap fun before => before.asymm centeredA.1 centeredB.1,
    ← ite_swap fun before => before.asymm centeredA.2 centeredB.2]
  rfl

variable [Scalar.Halving α]

theorem compare_self_eq_iff_of_isFinite (finite : a.IsFinite) :
    direction.compare a a = .eq ↔ a.IsNormalized ∧ a.HasFiniteSize := by
  have defined : ∀ side, (a.side side).IsDefined :=
    fun side => Scalar.isDefined_of_isFinite (finite side)
  have down : ¬a.down.Before a.down ↔ a.down.IsCentered :=
    Span.not_before_self_iff (defined .top)
      (Scalar.Halving.isDefined_middle (finite .top) (finite .bottom)) (defined .bottom)
  have across : ¬a.across.Before a.across ↔ a.across.IsCentered :=
    Span.not_before_self_iff (defined .left)
      (Scalar.Halving.isDefined_middle (finite .left) (finite .right)) (defined .right)
  rw [compare_self_eq_iff, down, across, ← Rect.isCentered_iff finite, Rect.IsCentered]

/-- Among finite rectangles, the comparison turns around whenever two of them are swapped exactly
if all of them are normalized and have finite extents. This is so if and only if each of them
compares equal to itself. -/
theorem compare_swap_iff (direction : ReadingDirection) {rects : Set (Rect α)}
    (finite : ∀ rect ∈ rects, rect.IsFinite) :
    ((∀ a ∈ rects, ∀ b ∈ rects, direction.compare b a = (direction.compare a b).swap) ↔
        ∀ rect ∈ rects, rect.IsNormalized ∧ rect.HasFiniteSize) ∧
      ∀ rect ∈ rects, direction.compare rect rect = .eq ↔
        rect.IsNormalized ∧ rect.HasFiniteSize := by
  have self : ∀ rect ∈ rects, direction.compare rect rect = .eq ↔
      rect.IsNormalized ∧ rect.HasFiniteSize :=
    fun rect member => compare_self_eq_iff_of_isFinite (finite rect member)
  refine ⟨⟨fun swap rect member => ?_, fun fine a memberA b memberB => ?_⟩, self⟩
  · exact (self rect member).mp (compare_self_eq_of_swap (swap rect member rect member))
  · exact compare_swap ((Rect.isCentered_iff (finite a memberA)).mpr (fine a memberA))
      ((Rect.isCentered_iff (finite b memberB)).mpr (fine b memberB))

/-- Two rectangles, one within the other, and one that is a mere point. -/
def samples : List (Rect Float) :=
  [⟨⟨0⟩, ⟨0⟩, ⟨10⟩, ⟨10⟩⟩, ⟨⟨2⟩, ⟨3⟩, ⟨4⟩, ⟨9⟩⟩, ⟨⟨5⟩, ⟨5⟩, ⟨5⟩, ⟨5⟩⟩]

theorem isFinite_samples : ∀ rect ∈ samples, rect.IsFinite := by
  have each : ∀ rect ∈ samples, Scalar.isFinite rect.top.points = true ∧
      Scalar.isFinite rect.right.points = true ∧ Scalar.isFinite rect.bottom.points = true ∧
      Scalar.isFinite rect.left.points = true := by
    decide +kernel
  intro rect member side
  rcases each rect member with ⟨top, right, bottom, left⟩
  cases side <;> assumption

theorem compare_swap_iff_samples :
    (∀ rect ∈ samples, rect.IsFinite) ∧
      ∀ a ∈ samples, ∀ b ∈ samples,
        compare {} b a = (compare {} a b).swap := by
  have fine : ∀ rect ∈ samples, rect.IsNormalized ∧ rect.HasFiniteSize := by
    unfold Rect.HasFiniteSize
    decide +kernel
  have finite : ∀ rect ∈ {rect | rect ∈ samples}, rect.IsFinite := isFinite_samples
  exact ⟨finite, (compare_swap_iff {} finite).1.mpr fine⟩

/-- Its right edge is to the left of its left edge. -/
def inverted : Rect Float := ⟨⟨10⟩, ⟨0⟩, ⟨0⟩, ⟨10⟩⟩

/-- It is wider than the largest number. -/
def widest : Rect Float :=
  ⟨⟨-Scalar.Binary.largest⟩, ⟨0⟩, ⟨Scalar.Binary.largest⟩, ⟨10⟩⟩

/-- A rectangle that is not normalized, or whose width overflows, compares less than itself. -/
theorem compare_swap_fails_inverted :
    inverted.IsFinite ∧ compare {} inverted inverted = .lt ∧
      compare {} inverted inverted ≠ (compare {} inverted inverted).swap ∧
      widest.IsFinite ∧ widest.IsNormalized ∧ compare {} widest widest = .lt ∧
      compare {} widest widest ≠ (compare {} widest widest).swap := by
  refine ⟨?_, by decide +kernel, by decide +kernel, ?_, by decide +kernel, by decide +kernel,
    by decide +kernel⟩ <;> intro side <;> cases side <;> decide +kernel

end ReadingDirection

end PageSketch
