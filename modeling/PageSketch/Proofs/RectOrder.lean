import PageSketch.Geometry.Rect
import PageSketch.Area.Side
import PageSketch.Proofs.ScalarOrder

/-! # The order of rectangles

Opposite edges can be put in order exactly if they are defined, and a rectangle that
lies within another meets it, both taken as the areas between their corners. -/

namespace PageSketch

/-! ## Lengths -/

namespace Length

variable {α : Type} [Scalar α]

/-- The length stands for something. -/
def IsDefined (length : Length α) : Prop := Scalar.IsDefined length.points

theorem min_eq_or (a b : Length α) : a.min b = a ∨ a.min b = b := by
  rw [Length.min]
  split
  · exact .inr rfl
  · exact .inl rfl

theorem max_eq_or (a b : Length α) : a.max b = a ∨ a.max b = b := by
  rw [Length.max]
  split
  · exact .inr rfl
  · exact .inl rfl

variable [Scalar.Ordered α] {a b c : Length α}

theorem isDefined_of_le (before : a ≤ b) : a.IsDefined ∧ b.IsDefined :=
  Scalar.Ordered.defined_of_le before

theorem le_trans (first : a ≤ b) (second : b ≤ c) : a ≤ c :=
  Scalar.Ordered.le_trans first second

theorem le_total (definedA : a.IsDefined) (definedB : b.IsDefined) : a ≤ b ∨ b ≤ a :=
  Scalar.Ordered.le_total definedA definedB

theorem le_self (defined : a.IsDefined) : a ≤ a := by
  rcases le_total defined defined with reflexive | reflexive <;> exact reflexive

theorem le_of_lt (before : a < b) : a ≤ b := (Scalar.Ordered.lt_iff.mp before).1

theorem le_of_not_lt (definedA : a.IsDefined) (definedB : b.IsDefined) (notBefore : ¬a < b) :
    b ≤ a := by
  rcases le_total definedA definedB with before | after
  · by_contra notAfter
    exact notBefore (Scalar.Ordered.lt_iff.mpr ⟨before, notAfter⟩)
  · exact after

theorem min_le_right (definedA : a.IsDefined) (definedB : b.IsDefined) : a.min b ≤ b := by
  rw [Length.min]
  split
  · exact le_self definedB
  · next notBefore => exact le_of_not_lt definedB definedA notBefore

theorem le_max_left (definedA : a.IsDefined) : a ≤ a.max b := by
  rw [Length.max]
  split
  · next before => exact le_of_lt before
  · exact le_self definedA

/-- Two lengths that are swapped if need be are in order exactly if they are defined. -/
theorem le_of_swap_iff :
    (if b < a then (b, a) else (a, b)).1 ≤ (if b < a then (b, a) else (a, b)).2 ↔
      a.IsDefined ∧ b.IsDefined := by
  constructor
  · split
    · intro before
      exact (isDefined_of_le before).symm
    · exact isDefined_of_le
  · rintro ⟨definedA, definedB⟩
    split
    · next swapped => exact le_of_lt swapped
    · next kept => exact le_of_not_lt definedB definedA kept

end Length

/-! ## Rectangles -/

namespace Rect

/-- The coordinate of a side. -/
def side {α : Type} (rect : Rect α) : Side → Length α
  | .top => rect.top
  | .right => rect.right
  | .bottom => rect.bottom
  | .left => rect.left

variable {α : Type} [Scalar α]

/-- All coordinates stand for something. -/
def IsDefined (rect : Rect α) : Prop := ∀ side, (rect.side side).IsDefined

theorem Contains.isNormalized_inner {outer inner : Rect α} (contained : outer.Contains inner) :
    inner.IsNormalized :=
  ⟨contained.2.1, contained.2.2.2.2.1⟩

variable [Scalar.Ordered α]

theorem IsNormalized.isDefined {rect : Rect α} (normalized : rect.IsNormalized) :
    rect.IsDefined := by
  intro side
  cases side with
  | top => exact (Length.isDefined_of_le normalized.2).1
  | right => exact (Length.isDefined_of_le normalized.1).2
  | bottom => exact (Length.isDefined_of_le normalized.2).2
  | left => exact (Length.isDefined_of_le normalized.1).1

/-- Swapping edges puts them in order exactly if they are defined. -/
theorem isNormalized_normalize {rect : Rect α} :
    rect.normalize.IsNormalized ↔ rect.IsDefined := by
  have edges : rect.normalize.IsNormalized ↔
      (rect.left.IsDefined ∧ rect.right.IsDefined) ∧ rect.top.IsDefined ∧ rect.bottom.IsDefined :=
    and_congr Length.le_of_swap_iff Length.le_of_swap_iff
  rw [edges]
  constructor
  · rintro ⟨⟨left, right⟩, top, bottom⟩ side
    cases side with
    | top => exact top
    | right => exact right
    | bottom => exact bottom
    | left => exact left
  · intro defined
    exact ⟨⟨defined .left, defined .right⟩, defined .top, defined .bottom⟩

theorem exists_undefined {rect : Rect α} :
    ¬rect.normalize.IsNormalized ↔
      ∃ side, Scalar.reading (rect.side side).points = .undefined := by
  rw [isNormalized_normalize, IsDefined, not_forall]
  apply exists_congr
  intro side
  exact not_not

/-- A rectangle lies within the area between its corners. -/
theorem within_envelope {rect : Rect α} (defined : rect.IsDefined) :
    (rect.envelope.left ≤ rect.left ∧ rect.right ≤ rect.envelope.right) ∧
      rect.envelope.top ≤ rect.top ∧ rect.bottom ≤ rect.envelope.bottom :=
  ⟨⟨Length.min_le_right (defined .right) (defined .left), Length.le_max_left (defined .right)⟩,
    Length.min_le_right (defined .bottom) (defined .top), Length.le_max_left (defined .bottom)⟩

theorem Contains.isNormalized {outer inner : Rect α} (contained : outer.Contains inner) :
    outer.IsNormalized := by
  rcases contained with ⟨left, across, right, top, down, bottom⟩
  exact ⟨Length.le_trans left (Length.le_trans across right),
    Length.le_trans top (Length.le_trans down bottom)⟩

/-- What lies within a rectangle is found when looking for what meets it. -/
theorem Contains.meets {outer inner : Rect α} (contained : outer.Contains inner) :
    inner.envelope.Meets outer.envelope := by
  have outside := within_envelope contained.isNormalized.isDefined
  have inside := within_envelope contained.isNormalized_inner.isDefined
  rcases contained with ⟨left, across, right, top, down, bottom⟩
  refine ⟨?_, ?_, ?_, ?_⟩
  · exact Length.le_trans inside.1.1 (Length.le_trans (Length.le_trans across right) outside.1.2)
  · exact Length.le_trans outside.1.1 (Length.le_trans (Length.le_trans left across) inside.1.2)
  · exact Length.le_trans inside.2.1 (Length.le_trans (Length.le_trans down bottom) outside.2.2)
  · exact Length.le_trans outside.2.1 (Length.le_trans (Length.le_trans top down) inside.2.2)

end Rect

end PageSketch
