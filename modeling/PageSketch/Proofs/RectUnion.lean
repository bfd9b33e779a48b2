import PageSketch.Proofs.RectOrder

/-! # Unions of rectangles

Of rectangles with their edges in order, the union is the smallest that contains them all. It
can be taken in parts, as long as all coordinates are defined. -/

namespace PageSketch

namespace Length

variable {α : Type} [Scalar α] {a b c : Length α}

theorem le_min (first : c ≤ a) (second : c ≤ b) : c ≤ a.min b := by
  rcases min_eq_or a b with equal | equal <;> rw [equal] <;> assumption

theorem max_le (first : a ≤ c) (second : b ≤ c) : a.max b ≤ c := by
  rcases max_eq_or a b with equal | equal <;> rw [equal] <;> assumption

theorem IsDefined.min (definedA : a.IsDefined) (definedB : b.IsDefined) :
    (a.min b).IsDefined := by
  rcases min_eq_or a b with equal | equal <;> rw [equal] <;> assumption

theorem IsDefined.max (definedA : a.IsDefined) (definedB : b.IsDefined) :
    (a.max b).IsDefined := by
  rcases max_eq_or a b with equal | equal <;> rw [equal] <;> assumption

variable [Scalar.Ordered α]

theorem min_le_left (definedA : a.IsDefined) : a.min b ≤ a := by
  rw [Length.min]
  split
  · next after => exact le_of_lt after
  · exact le_self definedA

theorem le_max_right (definedA : a.IsDefined) (definedB : b.IsDefined) : b ≤ a.max b := by
  rw [Length.max]
  split
  · exact le_self definedB
  · next notBefore => exact le_of_not_lt definedA definedB notBefore

theorem not_lt_of_le (before : a ≤ b) : ¬b < a := fun after =>
  (Scalar.Ordered.lt_iff.mp after).2 before

theorem lt_of_lt_of_le (first : a < b) (second : b ≤ c) : a < c :=
  Scalar.Ordered.lt_iff.mpr ⟨le_trans (le_of_lt first) second, fun back =>
    not_lt_of_le (le_trans second back) first⟩

theorem lt_of_le_of_lt (first : a ≤ b) (second : b < c) : a < c :=
  Scalar.Ordered.lt_iff.mpr ⟨le_trans first (le_of_lt second), fun back =>
    not_lt_of_le (le_trans back first) second⟩

/-- Among equal lengths, the first one is chosen, in whatever way they are grouped. -/
theorem min_assoc (definedA : a.IsDefined) (definedB : b.IsDefined) (definedC : c.IsDefined) :
    (a.min b).min c = a.min (b.min c) := by
  simp only [Length.min]
  by_cases second : b < a
  · by_cases third : c < b
    · have least : c < a := lt_of_lt_of_le third (le_of_lt second)
      simp [second, third, least]
    · simp [second, third]
  · by_cases third : c < b
    · simp [second, third]
    · have least : ¬c < a := not_lt_of_le
        (le_trans (le_of_not_lt definedB definedA second) (le_of_not_lt definedC definedB third))
      simp [second, third, least]

theorem max_assoc (definedA : a.IsDefined) (definedB : b.IsDefined) (definedC : c.IsDefined) :
    (a.max b).max c = a.max (b.max c) := by
  simp only [Length.max]
  by_cases second : a < b
  · by_cases third : b < c
    · have greatest : a < c := lt_of_lt_of_le second (le_of_lt third)
      simp [second, third, greatest]
    · simp [second, third]
  · by_cases third : b < c
    · simp [second, third]
    · have greatest : ¬a < c := not_lt_of_le
        (le_trans (le_of_not_lt definedB definedC third) (le_of_not_lt definedA definedB second))
      simp [second, third, greatest]

end Length

namespace Rect

variable {α : Type} [Scalar α] {a b c outer rect whole : Rect α} {rects : List (Rect α)}

theorem isDefined_iff : rect.IsDefined ↔
    rect.left.IsDefined ∧ rect.top.IsDefined ∧ rect.right.IsDefined ∧ rect.bottom.IsDefined := by
  constructor
  · exact fun defined => ⟨defined .left, defined .top, defined .right, defined .bottom⟩
  · rintro ⟨left, top, right, bottom⟩ side
    cases side <;> assumption

theorem IsDefined.union (definedA : a.IsDefined) (definedB : b.IsDefined) :
    (a.union b).IsDefined :=
  isDefined_iff.mpr ⟨(definedA .left).min (definedB .left), (definedA .top).min (definedB .top),
    (definedA .right).max (definedB .right), (definedA .bottom).max (definedB .bottom)⟩

variable [Scalar.Ordered α]

theorem union_assoc (definedA : a.IsDefined) (definedB : b.IsDefined)
    (definedC : c.IsDefined) : (a.union b).union c = a.union (b.union c) := by
  rw [Rect.union, Rect.union, Rect.union, Rect.union, mk.injEq]
  exact ⟨Length.min_assoc (definedA .left) (definedB .left) (definedC .left),
    Length.min_assoc (definedA .top) (definedB .top) (definedC .top),
    Length.max_assoc (definedA .right) (definedB .right) (definedC .right),
    Length.max_assoc (definedA .bottom) (definedB .bottom) (definedC .bottom)⟩

/-! ## Containment -/

theorem Contains.union_left (contained : a.Contains rect) : (a.union b).Contains rect := by
  have defined := contained.isNormalized.isDefined
  rcases contained with ⟨left, across, right, top, down, bottom⟩
  exact ⟨Length.le_trans (Length.min_le_left (defined .left)) left, across,
    Length.le_trans right (Length.le_max_left (defined .right)),
    Length.le_trans (Length.min_le_left (defined .top)) top, down,
    Length.le_trans bottom (Length.le_max_left (defined .bottom))⟩

theorem union_contains_right (defined : a.IsDefined) (normalized : b.IsNormalized) :
    (a.union b).Contains b :=
  ⟨Length.min_le_right (defined .left) (normalized.isDefined .left), normalized.1,
    Length.le_max_right (defined .right) (normalized.isDefined .right),
    Length.min_le_right (defined .top) (normalized.isDefined .top), normalized.2,
    Length.le_max_right (defined .bottom) (normalized.isDefined .bottom)⟩

theorem contains_self (normalized : rect.IsNormalized) : rect.Contains rect :=
  have defined := normalized.isDefined
  ⟨Length.le_self (defined .left), normalized.1, Length.le_self (defined .right),
    Length.le_self (defined .top), normalized.2, Length.le_self (defined .bottom)⟩

theorem Contains.trans (first : a.Contains b) (second : b.Contains c) : a.Contains c := by
  rcases first with ⟨left, _, right, top, _, bottom⟩
  rcases second with ⟨left', across, right', top', down, bottom'⟩
  exact ⟨Length.le_trans left left', across, Length.le_trans right' right,
    Length.le_trans top top', down, Length.le_trans bottom' bottom⟩

theorem IsNormalized.union (normalizedA : a.IsNormalized) (normalizedB : b.IsNormalized) :
    (a.union b).IsNormalized :=
  (union_contains_right normalizedA.isDefined normalizedB).isNormalized

theorem Contains.union (first : outer.Contains a) (second : outer.Contains b) :
    outer.Contains (a.union b) := by
  have joined := first.isNormalized_inner.union second.isNormalized_inner
  rcases first with ⟨left, _, right, top, _, bottom⟩
  rcases second with ⟨left', _, right', top', _, bottom'⟩
  exact ⟨Length.le_min left left', joined.1, Length.max_le right right',
    Length.le_min top top', joined.2, Length.max_le bottom bottom'⟩

/-! ## Many rectangles -/

omit [Scalar.Ordered α] in
theorem unionAll?_eq_none : unionAll? rects = none ↔ rects = [] := by
  cases rects <;> simp [unionAll?]

omit [Scalar.Ordered α] in
/-- What holds of rectangles and is kept by unions holds of the union of all. -/
theorem of_unionAll? {Fine : Rect α → Prop} (each : ∀ rect ∈ rects, Fine rect)
    (union : ∀ {a b : Rect α}, Fine a → Fine b → Fine (a.union b))
    (united : unionAll? rects = some whole) : Fine whole := by
  cases rects with
  | nil => cases united
  | cons first rest =>
      cases united
      have begun := each first List.mem_cons_self
      replace each := fun rect member => each rect (List.mem_cons_of_mem first member)
      induction rest generalizing first with
      | nil => exact begun
      | cons second rest induction =>
          exact induction (first.union second) (union begun (each second List.mem_cons_self))
            fun rect member => each rect (List.mem_cons_of_mem second member)

omit [Scalar.Ordered α] in
theorem isDefined_unionAll? (defined : ∀ rect ∈ rects, rect.IsDefined)
    (united : unionAll? rects = some whole) : whole.IsDefined :=
  of_unionAll? defined IsDefined.union united

theorem foldl_union (definedA : a.IsDefined) (definedB : b.IsDefined)
    (defined : ∀ rect ∈ rects, rect.IsDefined) :
    rects.foldl union (a.union b) = a.union (rects.foldl union b) := by
  induction rects generalizing b with
  | nil => rfl
  | cons c rest induction =>
      have definedC := defined c List.mem_cons_self
      rw [List.foldl_cons, List.foldl_cons, union_assoc definedA definedB definedC]
      exact induction (definedB.union definedC)
        fun rect member => defined rect (List.mem_cons_of_mem c member)

theorem unionAll?_append {first second : List (Rect α)}
    (defined : ∀ rect ∈ first ++ second, rect.IsDefined) :
    unionAll? (first ++ second) = (unionAll? first).merge union (unionAll? second) := by
  have left := fun rect member => defined rect (List.mem_append_left second member)
  have right := fun rect member => defined rect (List.mem_append_right first member)
  cases first with
  | nil => rw [List.nil_append, unionAll?, Option.merge_none_left]
  | cons a first =>
      cases second with
      | nil => rw [List.append_nil, unionAll?, Option.merge_none_right]
      | cons b second =>
          rw [List.cons_append, unionAll?, List.foldl_append, List.foldl_cons, unionAll?,
            unionAll?, Option.merge_some_some,
            foldl_union (isDefined_unionAll? left rfl) (right b List.mem_cons_self)
              fun rect member => right rect (List.mem_cons_of_mem b member)]

omit [Scalar.Ordered α] in
theorem isDefined_of_filterMap {parts : List (List (Rect α))}
    (defined : ∀ rect ∈ parts.flatten, rect.IsDefined) :
    ∀ rect ∈ parts.filterMap unionAll?, rect.IsDefined := by
  intro rect member
  rcases List.mem_filterMap.mp member with ⟨part, listed, united⟩
  exact isDefined_unionAll?
    (fun inner present => defined inner (List.mem_flatten_of_mem listed present)) united

/-- The union can be taken of parts first. -/
theorem unionAll?_flatten {parts : List (List (Rect α))}
    (defined : ∀ rect ∈ parts.flatten, rect.IsDefined) :
    unionAll? parts.flatten = unionAll? (parts.filterMap unionAll?) := by
  induction parts with
  | nil => rfl
  | cons part parts induction =>
      have united := isDefined_of_filterMap defined
      rw [List.flatten_cons] at defined ⊢
      rw [unionAll?_append defined,
        induction fun rect member => defined rect (List.mem_append_right part member)]
      cases here : unionAll? part with
      | none => rw [List.filterMap_cons_none here, Option.merge_none_left]
      | some whole =>
          rw [List.filterMap_cons_some here] at united ⊢
          exact (@unionAll?_append α _ _ [whole] _ united).symm

theorem foldl_union_contains (contained : a.Contains rect) :
    (rects.foldl union a).Contains rect := by
  induction rects generalizing a with
  | nil => exact contained
  | cons b rest induction => exact induction contained.union_left

theorem contains_of_unionAll? (defined : ∀ rect ∈ rects, rect.IsDefined)
    (united : unionAll? rects = some whole) (member : rect ∈ rects)
    (normalized : rect.IsNormalized) : whole.Contains rect := by
  rcases List.append_of_mem member with ⟨before, after, rfl⟩
  cases before with
  | nil =>
      cases united
      exact foldl_union_contains (contains_self normalized)
  | cons a before =>
      rw [List.cons_append, unionAll?, List.foldl_append, List.foldl_cons] at united
      cases united
      have ahead := isDefined_unionAll?
        (fun rect member => defined rect (List.mem_append_left (_ :: after) member)) rfl
      exact foldl_union_contains (union_contains_right ahead normalized)

/-- The union, wherever it lies if there are no parts, contains what lies within a part. -/
theorem contains_getD_unionAll? {fallback inner : Rect α}
    (defined : ∀ rect ∈ rects, rect.IsDefined) (member : rect ∈ rects)
    (contained : rect.Contains inner) :
    ((unionAll? rects).getD fallback).Contains inner := by
  cases united : unionAll? rects with
  | none =>
      rw [unionAll?_eq_none.mp united] at member
      cases member
  | some whole =>
      exact (contains_of_unionAll? defined united member contained.isNormalized).trans
        contained

/-- The union lies within what all of the rectangles lie in. -/
theorem contains_unionAll?_iff (normalized : ∀ rect ∈ rects, rect.IsNormalized)
    (united : unionAll? rects = some whole) :
    outer.Contains whole ↔ ∀ rect ∈ rects, outer.Contains rect := by
  constructor
  · intro contained rect member
    exact contained.trans (contains_of_unionAll?
      (fun rect member => (normalized rect member).isDefined) united member
      (normalized rect member))
  · exact fun each => of_unionAll? each Contains.union united

end Rect

end PageSketch
