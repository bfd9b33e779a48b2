import Mathlib.Data.String.Basic
import PageSketch.Area.AnchoredRect
import PageSketch.Proofs.Outcomes
import PageSketch.Proofs.RectOrder

/-! # What areas depend on

An anchor asks for one feature or for none, and its coordinate is a function of the
point that it is told. The dry run writes down exactly those features, so the
features that are required decide how an area is resolved, and none of them can be
left out. -/

namespace PageSketch

/-! ## The order of references -/

namespace FeatureRef

theorem Precedes.trans {a b c : FeatureRef} (first : a.Precedes b) (second : b.Precedes c) :
    a.Precedes c := by
  rcases first with nodes | ⟨nodes, ranks⟩ <;> rcases second with others | ⟨others, further⟩
  · exact .inl (lt_trans nodes others)
  · exact .inl (others ▸ nodes)
  · exact .inl (nodes ▸ others)
  · exact .inr ⟨nodes.trans others, Nat.lt_trans ranks further⟩

theorem rank_injective : Function.Injective Feature.rank := by
  intro a b
  cases a <;> cases b <;> decide

theorem precedes_of_not_precedes {a b : FeatureRef} (notBefore : ¬a.Precedes b)
    (different : a ≠ b) : b.Precedes a := by
  obtain ⟨node, feature⟩ := a
  obtain ⟨otherNode, otherFeature⟩ := b
  simp only [Precedes, not_or, not_and] at notBefore ⊢
  rcases lt_trichotomy node otherNode with before | equal | after
  · exact absurd before notBefore.1
  · subst equal
    have ranks : feature.rank ≠ otherFeature.rank := fun same =>
      different (by rw [rank_injective same])
    exact .inr ⟨rfl, by have := notBefore.2 rfl; omega⟩
  · exact .inl after

theorem mem_insert {ref other : FeatureRef} {refs : List FeatureRef} :
    other ∈ insert ref refs ↔ other = ref ∨ other ∈ refs := by
  induction refs with
  | nil => simp [insert]
  | cons first rest induction =>
      rw [insert]
      split
      · simp
      · split
        · next equal => simp [equal]
        · simp only [List.mem_cons, induction]
          exact or_left_comm

theorem pairwise_insert {ref : FeatureRef} {refs : List FeatureRef}
    (increasing : refs.Pairwise Precedes) : (insert ref refs).Pairwise Precedes := by
  induction refs with
  | nil => simp [insert]
  | cons first rest induction =>
      have parts := List.pairwise_cons.mp increasing
      rw [insert]
      split
      · next before =>
          refine List.pairwise_cons.mpr ⟨fun other member => ?_, increasing⟩
          rcases List.mem_cons.mp member with rfl | member
          · exact before
          · exact before.trans (parts.1 other member)
      · next notBefore =>
          split
          · exact increasing
          · next different =>
              refine List.pairwise_cons.mpr ⟨fun other member => ?_, induction parts.2⟩
              rcases mem_insert.mp member with rfl | member
              · exact precedes_of_not_precedes notBefore different
              · exact parts.1 other member

theorem mem_distinct {ref : FeatureRef} {refs : List FeatureRef} :
    ref ∈ distinct refs ↔ ref ∈ refs := by
  induction refs with
  | nil => simp [distinct]
  | cons first rest induction =>
      rw [distinct, List.foldr_cons, mem_insert, List.mem_cons]
      exact or_congr_right induction

theorem pairwise_distinct (refs : List FeatureRef) : (distinct refs).Pairwise Precedes := by
  induction refs with
  | nil => simp [distinct]
  | cons first rest induction => exact pairwise_insert induction

end FeatureRef

/-! ## Coordinates as functions of one point -/

/-- Looks up a feature if there is one to look up. -/
def FeatureRef.ask {α : Type} [Scalar α] {m : Type → Type} [Monad m]
    (lookup : FeatureRef → m (Point α)) : Option FeatureRef → m (Point α)
  | none => pure .origin
  | some ref => lookup ref

/-- The coordinate of a source whose feature, if it has one, is at a point. -/
def Source.coordinateAt {α : Type} [Scalar α] (axis : Axis) (point : Point α) :
    Source α → Length α
  | .edge _ (.absolute distance) => distance
  | .edge _ (.relative _ offset) => axis.coordinate point + offset
  | .corner _ (.absolute place) => axis.coordinate place
  | .corner _ (.relative _ offset) => axis.coordinate (point.shift offset)

theorem Source.position_eq {α : Type} [Scalar α] {m : Type → Type} [Monad m] [LawfulMonad m]
    (lookup : FeatureRef → m (Point α)) (axis : Axis) (source : Source α) :
    source.position lookup axis =
      (source.coordinateAt axis ·) <$> FeatureRef.ask lookup source.feature? := by
  rcases source with ⟨_, place⟩ | ⟨_, place⟩ <;> cases place <;>
    simp [position, coordinateAt, feature?, FeatureRef.ask]

namespace Anchor

variable {α : Type} [Scalar α]

/-- The coordinate of an edge for which the feature of its source is at a point. -/
def coordinateAt (axis : Axis) (point : Point α) (anchor : Anchor α) : Length α :=
  match anchor.shift with
  | some offset => anchor.source.coordinateAt axis point + offset
  | none => anchor.source.coordinateAt axis point

theorem position_eq {m : Type → Type} [Monad m] [LawfulMonad m]
    (lookup : FeatureRef → m (Point α)) (axis : Axis) (anchor : Anchor α) :
    anchor.position lookup axis =
      (anchor.coordinateAt axis ·) <$> FeatureRef.ask lookup anchor.source.feature? := by
  rw [position, Source.position_eq]
  cases shifted : anchor.shift <;> simp [coordinateAt, shifted]

end Anchor

namespace AnchoredRect

variable {α : Type} [Scalar α]

/-- The feature for which a side asks. -/
def feature? (rect : AnchoredRect α) (side : Side) : Option FeatureRef :=
  (rect.anchor side).source.feature?

theorem coordinate_eq {m : Type → Type} [Monad m] [LawfulMonad m]
    (rect : AnchoredRect α) (lookup : FeatureRef → m (Point α)) (side : Side) :
    rect.coordinate lookup side =
      ((rect.anchor side).coordinateAt side.axis ·) <$>
        FeatureRef.ask lookup (rect.feature? side) :=
  Anchor.position_eq lookup side.axis (rect.anchor side)

/-! ## The dry run -/

/-- In the dry run a side writes down the feature for which it asks. -/
theorem run_discard_coordinate (rect : AnchoredRect α) (side : Side)
    (requested : List FeatureRef) :
    (discard (rect.coordinate Discovery.lookup side) : Discovery Unit).run requested =
      ((), (rect.feature? side).toList ++ requested) := by
  rw [coordinate_eq]
  cases rect.feature? side <;> rfl

/-- The dry run over some sides writes down their features, the latest first. -/
theorem run_discover_sides (rect : AnchoredRect α) (sides : List Side)
    (requested : List FeatureRef) :
    ((sides.forM fun side => discard (rect.coordinate Discovery.lookup side) :
        Discovery Unit).run requested).2 =
      (sides.filterMap rect.feature?).reverse ++ requested := by
  induction sides generalizing requested with
  | nil => rfl
  | cons side rest induction =>
      have later := induction ((rect.feature? side).toList ++ requested)
      have first := rect.run_discard_coordinate side requested
      rw [List.forM, StateT.run_bind, first]
      refine later.trans ?_
      cases found : rect.feature? side <;> simp [found]

theorem required_eq (rect : AnchoredRect α) :
    rect.required = FeatureRef.distinct (Side.all.filterMap rect.feature?).reverse := by
  rw [required, Discovery.features, discover, run_discover_sides, List.append_nil]

theorem mem_required {rect : AnchoredRect α} {ref : FeatureRef} :
    ref ∈ rect.required ↔ ∃ side, rect.feature? side = some ref := by
  rw [required_eq, FeatureRef.mem_distinct, List.mem_reverse, List.mem_filterMap]
  constructor
  · rintro ⟨side, _, found⟩
    exact ⟨side, found⟩
  · rintro ⟨side, found⟩
    exact ⟨side, side.mem_all, found⟩

/-! ## Requests -/

/-- Looks up a feature and writes down that it was asked for. -/
def recording (lookup : FeatureLookup α) (ref : FeatureRef) : ExceptT Failure Discovery (Point α) :=
  fun requested => (lookup ref, ref :: requested)

/-- The features for which the sides ask when they are evaluated. -/
def asked (rect : AnchoredRect α) (lookup : FeatureLookup α) : List FeatureRef :=
  Side.all.flatMap fun side => ((rect.coordinate (recording lookup) side).run.run []).2

/-- A side asks for its feature whatever the answer is, and writing this down does not
change its coordinate. -/
theorem run_recording_coordinate (rect : AnchoredRect α) (lookup : FeatureLookup α)
    (side : Side) :
    (rect.coordinate (recording lookup) side).run.run [] =
      (rect.coordinate lookup side, (rect.feature? side).toList) := by
  rw [coordinate_eq, coordinate_eq]
  cases rect.feature? side with
  | none => rfl
  | some ref =>
      have recorded : (recording lookup ref).run.run [] = (lookup ref, [ref]) := rfl
      rw [FeatureRef.ask, FeatureRef.ask, ExceptT.run_map, StateT.run_map, recorded]
      rfl

/-- The features that are required are those that are asked for. -/
theorem mem_asked {rect : AnchoredRect α} {lookup : FeatureLookup α} {ref : FeatureRef} :
    ref ∈ rect.asked lookup ↔ ref ∈ rect.required := by
  rw [mem_required, asked, List.mem_flatMap]
  simp only [run_recording_coordinate, Option.mem_toList, Side.mem_all, true_and]

/-! ## Resolution -/

theorem coordinate_eq_error {rect : AnchoredRect α} {lookup : FeatureLookup α} {side : Side}
    {failure : Failure} :
    rect.coordinate lookup side = .error failure ↔
      ∃ ref, rect.feature? side = some ref ∧ lookup ref = .error failure := by
  rw [coordinate_eq]
  cases found : rect.feature? side with
  | none => simp [FeatureRef.ask, pure, Except.pure, Functor.map, Except.map]
  | some ref =>
      cases answer : lookup ref <;> simp [FeatureRef.ask, answer, Functor.map, Except.map]

theorem coordinate_congr {rect : AnchoredRect α} {first second : FeatureLookup α}
    (agree : ∀ ref ∈ rect.required, first ref = second ref) (side : Side) :
    rect.coordinate first side = rect.coordinate second side := by
  rw [coordinate_eq, coordinate_eq]
  cases found : rect.feature? side with
  | none => rfl
  | some ref =>
      have same := agree ref (mem_required.mpr ⟨side, found⟩)
      rw [FeatureRef.ask, FeatureRef.ask, same]

/-- The sides that cannot be evaluated. -/
def failedSides (rect : AnchoredRect α) (lookup : FeatureLookup α) : List Side :=
  Side.all.filter fun side => !(rect.coordinate lookup side).isOk

/-- Why sides cannot be evaluated. -/
def sideFailures (rect : AnchoredRect α) (lookup : FeatureLookup α) : List Failure :=
  Side.all.filterMap fun side =>
    Failure.ofOutcome? (Failure.atPlace side.name (rect.coordinate lookup side))

theorem mem_sideFailures {rect : AnchoredRect α} {lookup : FeatureLookup α}
    {failure : Failure} :
    failure ∈ rect.sideFailures lookup ↔
      ∃ side inner, rect.coordinate lookup side = .error inner ∧
        failure = .within side.name inner := by
  simp only [sideFailures, List.mem_filterMap, Failure.ofOutcome?_eq_some,
    Failure.atPlace_eq_error]
  constructor
  · rintro ⟨side, _, inner, failed, equal⟩
    exact ⟨side, inner, failed, equal⟩
  · rintro ⟨side, inner, failed, equal⟩
    exact ⟨side, side.mem_all, inner, failed, equal⟩

theorem length_sideFailures (rect : AnchoredRect α) (lookup : FeatureLookup α) :
    (rect.sideFailures lookup).length = (rect.failedSides lookup).length := by
  rw [sideFailures, failedSides, List.length_filterMap_eq_countP, List.countP_eq_length_filter]
  congr 2
  funext side
  cases rect.coordinate lookup side <;> rfl

theorem sideFailures_eq_nil {rect : AnchoredRect α} {lookup : FeatureLookup α} :
    rect.sideFailures lookup = [] ↔ ∀ side, ∃ value, rect.coordinate lookup side = .ok value := by
  constructor
  · intro none side
    cases outcome : rect.coordinate lookup side with
    | ok value => exact ⟨value, rfl⟩
    | error failure =>
        have member := mem_sideFailures.mpr ⟨side, failure, outcome, rfl⟩
        rw [none] at member
        cases member
  · intro known
    apply List.eq_nil_iff_forall_not_mem.mpr
    intro failure member
    rcases mem_sideFailures.mp member with ⟨side, inner, failed, _⟩
    rcases known side with ⟨value, succeeded⟩
    rw [failed] at succeeded
    cases succeeded

theorem evaluate_of_coordinates {rect : AnchoredRect α} {lookup : FeatureLookup α}
    {resolved : Rect α}
    (known : ∀ side, rect.coordinate lookup side = .ok (resolved.side side)) :
    rect.evaluate lookup = .ok resolved := by
  have noFailures : rect.sideFailures lookup = [] :=
    sideFailures_eq_nil.mpr fun side => ⟨_, known side⟩
  change (Failure.checkAll (rect.sideFailures lookup) >>= _) = _
  rw [noFailures]
  simp only [known]
  rfl

theorem evaluate_of_failures {rect : AnchoredRect α} {lookup : FeatureLookup α}
    {failure : Failure} (failed : Failure.checkAll (rect.sideFailures lookup) = .error failure) :
    rect.evaluate lookup = .error failure := by
  change (Failure.checkAll (rect.sideFailures lookup) >>= _) = _
  rw [failed]
  rfl

/-- Either every side has a coordinate, or it is told why some have none. -/
theorem evaluate_cases (rect : AnchoredRect α) (lookup : FeatureLookup α) :
    (∃ resolved, rect.evaluate lookup = .ok resolved ∧
        ∀ side, rect.coordinate lookup side = .ok (resolved.side side)) ∨
      ∃ failure, rect.evaluate lookup = .error failure ∧
        Failure.checkAll (rect.sideFailures lookup) = .error failure := by
  cases checked : Failure.checkAll (rect.sideFailures lookup) with
  | error failure => exact .inr ⟨failure, evaluate_of_failures checked, rfl⟩
  | ok _ =>
      have known := sideFailures_eq_nil.mp (Failure.checkAll_eq_ok.mp checked)
      choose value succeeded using known
      let resolved : Rect α := ⟨value .left, value .top, value .right, value .bottom⟩
      have sides : ∀ side, rect.coordinate lookup side = .ok (resolved.side side) := by
        intro side
        cases side <;> exact succeeded _
      exact .inl ⟨resolved, evaluate_of_coordinates sides, sides⟩

theorem evaluate_eq_ok {rect : AnchoredRect α} {lookup : FeatureLookup α} {resolved : Rect α} :
    rect.evaluate lookup = .ok resolved ↔
      ∀ side, rect.coordinate lookup side = .ok (resolved.side side) := by
  constructor
  · intro succeeded
    rcases rect.evaluate_cases lookup with ⟨other, evaluated, sides⟩ | ⟨failure, failed, _⟩
    · rw [succeeded] at evaluated
      cases evaluated
      exact sides
    · rw [succeeded] at failed
      cases failed
  · exact evaluate_of_coordinates

theorem evaluate_eq_error {rect : AnchoredRect α} {lookup : FeatureLookup α}
    {failure : Failure} :
    rect.evaluate lookup = .error failure ↔
      Failure.checkAll (rect.sideFailures lookup) = .error failure := by
  constructor
  · intro failed
    rcases rect.evaluate_cases lookup with ⟨resolved, succeeded, _⟩ | ⟨other, evaluated, checked⟩
    · rw [failed] at succeeded
      cases succeeded
    · rw [failed] at evaluated
      cases evaluated
      exact checked
  · exact evaluate_of_failures

/-- Evaluation succeeds exactly if the lookup knows all that is required. -/
theorem evaluate_isOk_iff {rect : AnchoredRect α} {lookup : FeatureLookup α} :
    (∃ resolved, rect.evaluate lookup = .ok resolved) ↔
      ∀ ref ∈ rect.required, ∃ point, lookup ref = .ok point := by
  constructor
  · rintro ⟨resolved, succeeded⟩ ref member
    rcases mem_required.mp member with ⟨side, found⟩
    cases answer : lookup ref with
    | ok point => exact ⟨point, rfl⟩
    | error failure =>
        have failed := coordinate_eq_error.mpr ⟨ref, found, answer⟩
        rw [evaluate_eq_ok.mp succeeded side] at failed
        cases failed
  · intro known
    rcases rect.evaluate_cases lookup with ⟨resolved, succeeded, _⟩ | ⟨failure, _, checked⟩
    · exact ⟨resolved, succeeded⟩
    · have noFailures : rect.sideFailures lookup = [] := by
        apply List.eq_nil_iff_forall_not_mem.mpr
        intro reason member
        rcases mem_sideFailures.mp member with ⟨side, inner, failed, _⟩
        rcases coordinate_eq_error.mp failed with ⟨ref, found, answer⟩
        rcases known ref (mem_required.mpr ⟨side, found⟩) with ⟨point, told⟩
        rw [answer] at told
        cases told
      rw [noFailures] at checked
      cases checked

/-- A failed evaluation counts as what the failed lookups count as. -/
theorem is_of_evaluate {rect : AnchoredRect α} {lookup : FeatureLookup α} {failure : Failure}
    (failed : rect.evaluate lookup = .error failure) (kind : Kind) :
    failure.is kind = true ↔
      (∃ ref ∈ rect.required, ∃ inner, lookup ref = .error inner ∧ inner.is kind = true) ∨
        kind = .multiple ∧ 2 ≤ (rect.failedSides lookup).length := by
  rw [Failure.is_of_checkAll (evaluate_eq_error.mp failed) kind, length_sideFailures]
  apply or_congr_left
  constructor
  · rintro ⟨reason, member, counted⟩
    rcases mem_sideFailures.mp member with ⟨side, inner, stopped, rfl⟩
    rcases coordinate_eq_error.mp stopped with ⟨ref, found, answer⟩
    exact ⟨ref, mem_required.mpr ⟨side, found⟩, inner, answer, by simpa using counted⟩
  · rintro ⟨ref, member, inner, answer, counted⟩
    rcases mem_required.mp member with ⟨side, found⟩
    have stopped := coordinate_eq_error.mpr ⟨ref, found, answer⟩
    exact ⟨.within side.name inner, mem_sideFailures.mpr ⟨side, inner, stopped, rfl⟩,
      by simpa using counted⟩

/-- The failure of an area that has coordinates but no order of its edges. -/
def unordered (resolved : Rect α) : Failure :=
  .within "flexrect" (.cause (.invalidRect resolved.normalize.display))

theorem resolve_eq_ok {rect : AnchoredRect α} {lookup : FeatureLookup α} {resolved : Rect α} :
    rect.resolve lookup = .ok resolved ↔
      ∃ raw, rect.evaluate lookup = .ok raw ∧ raw.normalize = resolved ∧
        resolved.IsNormalized := by
  rw [resolve]
  cases evaluated : rect.evaluate lookup with
  | error failure => simp [bind, Except.bind]
  | ok raw =>
      by_cases ordered : raw.normalize.IsNormalized <;>
        simp [bind, Except.bind, Failure.atPlace, Rect.validate, ordered, Except.mapError, pure,
          Except.pure]
      · rintro rfl
        exact ordered
      · rintro rfl
        exact ordered

theorem resolve_eq_error {rect : AnchoredRect α} {lookup : FeatureLookup α}
    {failure : Failure} :
    rect.resolve lookup = .error failure ↔
      rect.evaluate lookup = .error failure ∨
        ∃ raw, rect.evaluate lookup = .ok raw ∧ ¬raw.normalize.IsNormalized ∧
          failure = unordered raw := by
  rw [resolve]
  cases evaluated : rect.evaluate lookup with
  | error other => simp [bind, Except.bind]
  | ok raw =>
      by_cases ordered : raw.normalize.IsNormalized <;>
        simp [bind, Except.bind, Failure.atPlace, Rect.validate, ordered, Except.mapError, pure,
          Except.pure, unordered, eq_comm]

/-- The edges are told by other names, so a failed evaluation is not taken for edges
without an order. -/
theorem evaluate_ne_unordered {rect : AnchoredRect α} {lookup : FeatureLookup α}
    {raw : Rect α} : rect.evaluate lookup ≠ .error (unordered raw) := by
  intro failed
  rcases Failure.mem_or_many_of_checkAll (evaluate_eq_error.mp failed) with member | many
  · rcases mem_sideFailures.mp member with ⟨side, inner, _, equal⟩
    have names : "flexrect" = side.name := (Failure.within.inj equal).1
    revert names
    cases side <;> decide
  · cases many

theorem resolve_congr {rect : AnchoredRect α} {first second : FeatureLookup α}
    (agree : ∀ ref ∈ rect.required, first ref = second ref) :
    rect.resolve first = rect.resolve second := by
  have same : rect.evaluate first = rect.evaluate second := by
    simp only [evaluate, coordinate_congr agree]
  rw [resolve, resolve, same]

/-- The features that are required are listed in order and are exactly what the
resolution of an area depends on. Lookups that agree on them resolve it alike. The
edges have coordinates exactly if all of them are known, and otherwise the failure
counts as what the failed lookups count as, and as several if several edges
failed. -/
theorem required_decides_resolve (rect : AnchoredRect α) :
    rect.required.Pairwise FeatureRef.Precedes ∧
      (∀ first second : FeatureLookup α,
        (∀ ref ∈ rect.required, first ref = second ref) →
          rect.resolve first = rect.resolve second) ∧
      (∀ lookup : FeatureLookup α,
        ((∃ resolved, rect.resolve lookup = .ok resolved) ∨
            ∃ raw : Rect α, rect.resolve lookup = .error (unordered raw)) ↔
          ∀ ref ∈ rect.required, ∃ point, lookup ref = .ok point) ∧
      ∀ lookup : FeatureLookup α,
        (∃ ref ∈ rect.required, ∃ inner, lookup ref = .error inner) →
          ∃ failure, rect.resolve lookup = .error failure ∧
            ∀ kind, failure.is kind = true ↔
              (∃ ref ∈ rect.required, ∃ inner,
                lookup ref = .error inner ∧ inner.is kind = true) ∨
                kind = .multiple ∧ 2 ≤ (rect.failedSides lookup).length := by
  refine ⟨?_, fun first second agree => resolve_congr agree, fun lookup => ?_,
    fun lookup => ?_⟩
  · rw [required_eq]
    exact FeatureRef.pairwise_distinct _
  · rw [← evaluate_isOk_iff]
    constructor
    · rintro (⟨resolved, succeeded⟩ | ⟨raw, failed⟩)
      · rcases resolve_eq_ok.mp succeeded with ⟨raw, evaluated, _⟩
        exact ⟨raw, evaluated⟩
      · rcases resolve_eq_error.mp failed with stopped | ⟨other, evaluated, _⟩
        · exact absurd stopped evaluate_ne_unordered
        · exact ⟨other, evaluated⟩
    · rintro ⟨raw, evaluated⟩
      by_cases ordered : raw.normalize.IsNormalized
      · exact .inl ⟨_, resolve_eq_ok.mpr ⟨raw, evaluated, rfl, ordered⟩⟩
      · exact .inr ⟨raw, resolve_eq_error.mpr (.inr ⟨raw, evaluated, ordered, rfl⟩)⟩
  · rintro ⟨ref, member, inner, answer⟩
    rcases rect.evaluate_cases lookup with ⟨resolved, succeeded, _⟩ | ⟨failure, failed, _⟩
    · rcases evaluate_isOk_iff.mp ⟨resolved, succeeded⟩ ref member with ⟨point, told⟩
      rw [answer] at told
      cases told
    · exact ⟨failure, resolve_eq_error.mpr (.inl failed), is_of_evaluate failed⟩

end AnchoredRect

end PageSketch
