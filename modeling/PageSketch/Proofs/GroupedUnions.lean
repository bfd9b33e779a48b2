import Mathlib.Data.List.Basic
import PageSketch.Proofs.RectUnion

/-! # Unions in groups

A union does not depend on how rectangles are grouped, and their order decides no more than
whether a zero has a sign: every edge is the outermost one that some rectangle has. -/

namespace PageSketch

/-! ## The outermost edges -/

/-- Of two edges on a side, the first one lies at least as far out. -/
def Side.Encloses {α : Type} [Scalar α] (side : Side) (outer inner : Length α) : Prop :=
  match side with
  | .top | .left => outer ≤ inner
  | .bottom | .right => inner ≤ outer

namespace Side

variable {α : Type} [Scalar α] {side : Side} {a b c : Length α}

theorem beq_of_encloses [Scalar.Equality α] (side : Side) (first : side.Encloses a b)
    (second : side.Encloses b a) : (a == b) = true := by
  cases side with
  | top => exact Scalar.Equality.beq_iff.mpr ⟨first, second⟩
  | right => exact Scalar.Equality.beq_iff.mpr ⟨second, first⟩
  | bottom => exact Scalar.Equality.beq_iff.mpr ⟨second, first⟩
  | left => exact Scalar.Equality.beq_iff.mpr ⟨first, second⟩

variable [Scalar.Ordered α]

theorem Encloses.trans (first : side.Encloses a b) (second : side.Encloses b c) :
    side.Encloses a c := by
  cases side with
  | top => exact Length.le_trans first second
  | right => exact Length.le_trans second first
  | bottom => exact Length.le_trans second first
  | left => exact Length.le_trans first second

theorem encloses_self (defined : a.IsDefined) : side.Encloses a a := by
  cases side <;> exact Length.le_self defined

end Side

namespace Rect

variable {α : Type} [Scalar α] {a b whole : Rect α} {rects others : List (Rect α)}

theorem beq_iff_side : (a == b) = true ↔ ∀ side, (a.side side == b.side side) = true := by
  change (a.left == b.left && a.top == b.top && a.right == b.right && a.bottom == b.bottom) =
    true ↔ _
  simp only [Bool.and_eq_true]
  constructor
  · rintro ⟨⟨⟨left, top⟩, right⟩, bottom⟩ side
    cases side <;> assumption
  · exact fun each => ⟨⟨⟨each .left, each .top⟩, each .right⟩, each .bottom⟩

theorem side_union_eq_or (a b : Rect α) (side : Side) :
    (a.union b).side side = a.side side ∨ (a.union b).side side = b.side side := by
  cases side with
  | top => exact Length.min_eq_or a.top b.top
  | right => exact Length.max_eq_or a.right b.right
  | bottom => exact Length.max_eq_or a.bottom b.bottom
  | left => exact Length.min_eq_or a.left b.left

/-- Each edge is that of some rectangle, and no rectangle reaches further out. -/
def IsHull (rects : List (Rect α)) (hull : Rect α) : Prop :=
  ∀ side, (∃ rect ∈ rects, hull.side side = rect.side side) ∧
    ∀ rect ∈ rects, side.Encloses (hull.side side) (rect.side side)

/-- What bounds the same rectangles is equal. -/
theorem IsHull.beq [Scalar.Equality α] (first : IsHull rects a) (second : IsHull others b)
    (same : ∀ rect, rect ∈ rects ↔ rect ∈ others) : (a == b) = true := by
  refine beq_iff_side.mpr fun side => Side.beq_of_encloses side ?_ ?_
  · rcases (second side).1 with ⟨rect, member, equal⟩
    rw [equal]
    exact (first side).2 rect ((same rect).mpr member)
  · rcases (first side).1 with ⟨rect, member, equal⟩
    rw [equal]
    exact (second side).2 rect ((same rect).mp member)

variable [Scalar.Ordered α]

theorem encloses_union_left (definedA : a.IsDefined) (side : Side) :
    side.Encloses ((a.union b).side side) (a.side side) := by
  cases side with
  | top => exact Length.min_le_left (definedA .top)
  | right => exact Length.le_max_left (definedA .right)
  | bottom => exact Length.le_max_left (definedA .bottom)
  | left => exact Length.min_le_left (definedA .left)

theorem encloses_union_right (definedA : a.IsDefined) (definedB : b.IsDefined) (side : Side) :
    side.Encloses ((a.union b).side side) (b.side side) := by
  cases side with
  | top => exact Length.min_le_right (definedA .top) (definedB .top)
  | right => exact Length.le_max_right (definedA .right) (definedB .right)
  | bottom => exact Length.le_max_right (definedA .bottom) (definedB .bottom)
  | left => exact Length.min_le_right (definedA .left) (definedB .left)

theorem isHull_singleton (defined : a.IsDefined) : IsHull [a] a := by
  intro side
  refine ⟨⟨a, List.mem_singleton_self a, rfl⟩, fun rect member => ?_⟩
  rw [List.mem_singleton.mp member]
  exact Side.encloses_self (defined side)

theorem IsHull.union_append (first : IsHull rects a) (second : IsHull others b)
    (definedA : a.IsDefined) (definedB : b.IsDefined) :
    IsHull (rects ++ others) (a.union b) := by
  intro side
  constructor
  · rcases side_union_eq_or a b side with equal | equal <;> rw [equal]
    · rcases (first side).1 with ⟨rect, member, here⟩
      exact ⟨rect, List.mem_append_left others member, here⟩
    · rcases (second side).1 with ⟨rect, member, here⟩
      exact ⟨rect, List.mem_append_right rects member, here⟩
  · intro rect member
    rcases List.mem_append.mp member with inFirst | inSecond
    · exact (encloses_union_left definedA side).trans ((first side).2 rect inFirst)
    · exact (encloses_union_right definedA definedB side).trans ((second side).2 rect inSecond)

theorem isHull_unionAll? (defined : ∀ rect ∈ rects, rect.IsDefined)
    (united : unionAll? rects = some whole) : IsHull rects whole := by
  induction rects generalizing whole with
  | nil => cases united
  | cons first rest induction =>
      have definedFirst := defined first List.mem_cons_self
      have definedRest : ∀ rect ∈ rest, rect.IsDefined :=
        fun rect member => defined rect (List.mem_cons_of_mem first member)
      -- The union runs from the front, but that of the rest can be taken first.
      have parts := @unionAll?_append α _ _ [first] rest defined
      rw [List.singleton_append, united, unionAll?, List.foldl_nil] at parts
      cases later : unionAll? rest with
      | none =>
          rw [later, Option.merge_none_right] at parts
          cases parts
          cases unionAll?_eq_none.mp later
          exact isHull_singleton definedFirst
      | some hull =>
          rw [later, Option.merge_some_some] at parts
          cases parts
          exact (isHull_singleton definedFirst).union_append (induction definedRest later)
            definedFirst (isDefined_unionAll? definedRest later)

end Rect

/-! ## Groups -/

/-- Rectangles in groups, which can themselves be grouped. -/
inductive Grouping (α : Type) where
  | single (rect : Rect α)
  | group (parts : List (Grouping α))

namespace Grouping

variable {α : Type}

/-- All rectangles in order. -/
def members : Grouping α → List (Rect α)
  | .single rect => [rect]
  | .group parts => parts.flatMap members

/-- The union of the unions of all parts, without those that are empty. -/
def union? [Scalar α] : Grouping α → Option (Rect α)
  | .single rect => some rect
  | .group parts => Rect.unionAll? (parts.filterMap union?)

/-- A union can be taken of any groups first, as long as the order of all is kept. -/
theorem union?_eq [Scalar α] [Scalar.Ordered α] (grouping : Grouping α)
    (defined : ∀ rect ∈ grouping.members, rect.IsDefined) :
    grouping.union? = Rect.unionAll? grouping.members := by
  match grouping with
  | .single rect =>
      rw [union?, members]
      rfl
  | .group parts =>
      rw [members, List.flatMap_def] at defined ⊢
      have each : ∀ part ∈ parts, part.union? = Rect.unionAll? part.members := by
        intro part listed
        refine union?_eq part fun rect member => defined rect ?_
        exact List.mem_flatten_of_mem (List.mem_map_of_mem listed) member
      rw [union?, List.filterMap_congr each, Rect.unionAll?_flatten defined, List.filterMap_map]
      rfl
termination_by sizeOf grouping

end Grouping

/-! ## The smallest rectangle around all -/

namespace Rect

section

variable {α : Type} [Scalar α] [Scalar.Ordered α] [Scalar.Equality α] {rects others : List (Rect α)}
  {whole : Rect α}

/-- The order of rectangles can only decide which of several equal numbers is taken. -/
theorem exists_beq_of_perm (defined : ∀ rect ∈ rects, rect.IsDefined)
    (united : unionAll? rects = some whole) (same : others.Perm rects) :
    ∃ other, unionAll? others = some other ∧ (other == whole) = true := by
  have reordered : ∀ rect ∈ others, rect.IsDefined :=
    fun rect member => defined rect (same.mem_iff.mp member)
  cases joined : unionAll? others with
  | none =>
      cases unionAll?_eq_none.mp joined
      cases same.symm.eq_nil
      cases united
  | some other =>
      exact ⟨other, rfl, (isHull_unionAll? reordered joined).beq (isHull_unionAll? defined united)
        fun _ => same.mem_iff⟩

/-- Of rectangles without undefined coordinates, the union contains all that are normalized. If
every one of them is, then so is the union, and it lies in whatever contains them all. In another
order, they have an equal union, where a zero can have another sign. In whatever way they are then
put into groups, that union stays the same. -/
theorem unionAll?_is_least (inhabited : rects ≠ []) (defined : ∀ rect ∈ rects, rect.IsDefined) :
    ∃ whole, unionAll? rects = some whole ∧
      (∀ rect ∈ rects, rect.IsNormalized → whole.Contains rect) ∧
      ((∀ rect ∈ rects, rect.IsNormalized) →
        whole.IsNormalized ∧
          ∀ outer : Rect α, (∀ rect ∈ rects, outer.Contains rect) → outer.Contains whole) ∧
      ∀ others : List (Rect α), others.Perm rects →
        ∃ other, unionAll? others = some other ∧ (other == whole) = true ∧
          ∀ grouping : Grouping α, grouping.members = others → grouping.union? = some other := by
  cases united : unionAll? rects with
  | none => exact absurd (unionAll?_eq_none.mp united) inhabited
  | some whole =>
      refine ⟨whole, rfl, fun rect => contains_of_unionAll? defined united, fun normalized => ?_,
        fun others same => ?_⟩
      · exact ⟨of_unionAll? normalized IsNormalized.union united,
          fun outer => (contains_unionAll?_iff normalized united).mpr⟩
      · rcases exists_beq_of_perm defined united same with ⟨other, joined, equal⟩
        refine ⟨other, joined, equal, ?_⟩
        rintro grouping rfl
        rw [grouping.union?_eq fun rect member => defined rect (same.mem_iff.mp member), joined]

end

/-- Two normalized rectangles at the left edge of the page, which is a negative zero in one. -/
def upright : List (Rect Float) := [⟨⟨0⟩, ⟨0⟩, ⟨10⟩, ⟨10⟩⟩, ⟨⟨-0⟩, ⟨4⟩, ⟨8⟩, ⟨12⟩⟩]

/-- The same after one whose left edge is to the right of its right edge. -/
def scattered : List (Rect Float) := ⟨⟨30⟩, ⟨-5⟩, ⟨20⟩, ⟨5⟩⟩ :: upright

/-- The rectangles from last to first, two of them in a group, beside an empty group. -/
def bundle : Grouping Float :=
  .group [.group (upright.reverse.map .single), .group [], .single ⟨⟨30⟩, ⟨-5⟩, ⟨20⟩, ⟨5⟩⟩]

theorem unionAll?_is_least_scattered :
    scattered ≠ [] ∧ (∀ rect ∈ scattered, rect.IsDefined) ∧
      ¬(∀ rect ∈ scattered, rect.IsNormalized) ∧
      (∃ whole, unionAll? scattered = some whole ∧ whole = ⟨⟨0⟩, ⟨-5⟩, ⟨20⟩, ⟨12⟩⟩ ∧
        (∀ rect ∈ upright, whole.Contains rect) ∧
        ∃ other, unionAll? scattered.reverse = some other ∧ (other == whole) = true ∧
          other ≠ whole ∧ bundle.union? = some other) ∧
      ∃ whole, unionAll? upright = some whole ∧ whole.IsNormalized ∧
        ∀ outer : Rect Float, (∀ rect ∈ upright, outer.Contains rect) → outer.Contains whole := by
  have ordered : ∀ rect ∈ scattered, rect.normalize.IsNormalized := by decide +kernel
  have defined : ∀ rect ∈ scattered, rect.IsDefined :=
    fun rect member => isNormalized_normalize.mp (ordered rect member)
  have inverted : ¬(∀ rect ∈ scattered, rect.IsNormalized) := by decide +kernel
  have normalized : ∀ rect ∈ upright, rect.IsNormalized := by decide +kernel
  have bundled : bundle.members = scattered.reverse := by
    simp [bundle, Grouping.members, scattered, upright]
  have value : unionAll? scattered = some ⟨⟨0⟩, ⟨-5⟩, ⟨20⟩, ⟨12⟩⟩ := by decide +kernel
  have differs : unionAll? scattered.reverse ≠ unionAll? scattered := by decide +kernel
  rcases unionAll?_is_least (List.cons_ne_nil _ _) defined with
    ⟨whole, united, inside, _, unordered⟩
  rcases unordered scattered.reverse scattered.reverse_perm with ⟨other, joined, equal, grouped⟩
  rcases unionAll?_is_least (List.cons_ne_nil _ _) fun rect member =>
    (normalized rect member).isDefined with ⟨small, together, _, least, _⟩
  refine ⟨List.cons_ne_nil _ _, defined, inverted,
    ⟨whole, united, Option.some.inj (united.symm.trans value), ?_, other, joined, equal, ?_,
      grouped bundle bundled⟩, small, together, least normalized⟩
  · exact fun rect member => inside rect (List.mem_cons_of_mem _ member) (normalized rect member)
  · rintro rfl
    exact differs (joined.trans united.symm)

end Rect

end PageSketch
