import Mathlib.Data.List.Forall2
import PageSketch.Failure

/-! # Outcomes

What it takes for a chain of steps to succeed, and how failures count that are
told with a place or collected. -/

namespace PageSketch

/-! ## Chains of steps -/

namespace Steps

variable {ε α β : Type}

theorem bind_eq_ok {first : Except ε α} {next : α → Except ε β} {value : β} :
    first >>= next = .ok value ↔ ∃ middle, first = .ok middle ∧ next middle = .ok value := by
  cases first with
  | error failure => simp [bind, Except.bind]
  | ok middle => simp [bind, Except.bind]

theorem bind_eq_error {first : Except ε α} {next : α → Except ε β} {failure : ε} :
    first >>= next = .error failure ↔
      first = .error failure ∨ ∃ middle, first = .ok middle ∧ next middle = .error failure := by
  cases first with
  | error other => simp [bind, Except.bind]
  | ok middle => simp [bind, Except.bind]

theorem map_eq_ok {outcome : Except ε α} {transform : α → β} {value : β} :
    transform <$> outcome = .ok value ↔
      ∃ inner, outcome = .ok inner ∧ transform inner = value := by
  cases outcome <;> simp [Functor.map, Except.map]

theorem mapError_eq_ok {δ : Type} {outcome : Except ε α} {transform : ε → δ} {value : α} :
    outcome.mapError transform = .ok value ↔ outcome = .ok value := by
  cases outcome <;> simp [Except.mapError]

theorem toOption_eq_some {outcome : Except ε α} {value : α} :
    outcome.toOption = some value ↔ outcome = .ok value := by
  cases outcome <;> simp [Except.toOption]

theorem mapM_eq_ok {step : α → Except ε β} {items : List α} {values : List β} :
    items.mapM step = .ok values ↔
      List.Forall₂ (fun item value => step item = .ok value) items values := by
  induction items generalizing values with
  | nil => cases values <;> simp [pure, Except.pure]
  | cons item rest induction =>
      rw [List.mapM_cons, bind_eq_ok]
      constructor
      · rintro ⟨value, stepped, others⟩
        rcases bind_eq_ok.mp others with ⟨tail, mapped, equal⟩
        cases equal
        exact .cons stepped (induction.mp mapped)
      · intro related
        cases related with
        | cons stepped others =>
            exact ⟨_, stepped, bind_eq_ok.mpr ⟨_, induction.mpr others, rfl⟩⟩

/-- In a traversal that succeeds, every step does. -/
theorem step_of_mapM {step : α → Except ε β} {items : List α} {values : List β}
    (mapped : items.mapM step = .ok values) {item : α} (member : item ∈ items) :
    ∃ value, step item = .ok value := by
  have related := mapM_eq_ok.mp mapped
  induction related with
  | nil => cases member
  | cons stepped others induction =>
      rcases List.mem_cons.mp member with rfl | member
      · exact ⟨_, stepped⟩
      · exact induction (mapM_eq_ok.mpr others) member

/-- What a traversal gives comes from its steps. -/
theorem exists_step_of_mapM {step : α → Except ε β} {items : List α} {values : List β}
    (mapped : items.mapM step = .ok values) {value : β} (member : value ∈ values) :
    ∃ item ∈ items, step item = .ok value := by
  have related := mapM_eq_ok.mp mapped
  induction related with
  | nil => cases member
  | @cons item value' items values stepped others induction =>
      rcases List.mem_cons.mp member with rfl | member
      · exact ⟨item, List.mem_cons_self, stepped⟩
      · rcases induction (mapM_eq_ok.mpr others) member with ⟨other, listed, here⟩
        exact ⟨other, List.mem_cons_of_mem item listed, here⟩

theorem mapM_map_ok (values : List α) :
    (values.map Except.ok : List (Except ε α)).mapM id = .ok values := by
  induction values with
  | nil => rfl
  | cons value rest induction => rw [List.map_cons, List.mapM_cons, induction]; rfl

/-- A traversal in which every step succeeds gives what the steps give. -/
theorem mapM_of_steps {step : α → Except ε β} {items : List α}
    (each : ∀ item ∈ items, ∃ value, step item = .ok value) :
    items.mapM step = .ok (items.filterMap fun item => (step item).toOption) := by
  induction items with
  | nil => rfl
  | cons item rest induction =>
      rcases each item List.mem_cons_self with ⟨value, stepped⟩
      have later := induction fun other member => each other (List.mem_cons_of_mem item member)
      rw [List.mapM_cons, stepped, later, List.filterMap_cons, stepped]
      rfl

theorem mapM_congr {first second : α → Except ε β} {items : List α}
    (agree : ∀ item ∈ items, first item = second item) :
    items.mapM first = items.mapM second := by
  induction items with
  | nil => rfl
  | cons item rest induction =>
      have later := induction fun other member => agree other (List.mem_cons_of_mem item member)
      rw [List.mapM_cons, List.mapM_cons, agree item List.mem_cons_self, later]

/-- A failing traversal fails as the first item does that fails. -/
theorem mapM_eq_error_first {step : α → Except ε β} {items : List α} {failure : ε}
    (failed : items.mapM step = .error failure) :
    ∃ before item after, items = before ++ item :: after ∧
      (∀ other ∈ before, ∃ value, step other = .ok value) ∧ step item = .error failure := by
  induction items with
  | nil => simp [pure, Except.pure] at failed
  | cons item rest induction =>
      rw [List.mapM_cons] at failed
      rcases bind_eq_error.mp failed with here | ⟨value, stepped, others⟩
      · exact ⟨[], item, rest, rfl, by simp, here⟩
      · rcases bind_eq_error.mp others with later | ⟨tail, _, impossible⟩
        · rcases induction later with ⟨before, found, after, rfl, well, stopped⟩
          refine ⟨item :: before, found, after, rfl, fun other member => ?_, stopped⟩
          rcases List.mem_cons.mp member with rfl | member
          · exact ⟨value, stepped⟩
          · exact well other member
        · cases impossible

theorem mapM_eq_error {step : α → Except ε β} {items : List α} {failure : ε}
    (failed : items.mapM step = .error failure) : ∃ item ∈ items, step item = .error failure := by
  rcases mapM_eq_error_first failed with ⟨before, item, after, rfl, _, stopped⟩
  exact ⟨item, List.mem_append_right before List.mem_cons_self, stopped⟩

/-- A fold that fails has come to an item whose step fails. -/
theorem foldlM_eq_error {step : β → α → Except ε β} {items : List α} {start : β} {failure : ε}
    (failed : items.foldlM step start = .error failure) :
    ∃ before item after state, items = before ++ item :: after ∧
      before.foldlM step start = .ok state ∧ step state item = .error failure := by
  induction items generalizing start with
  | nil => simp [pure, Except.pure] at failed
  | cons item rest induction =>
      rw [List.foldlM_cons] at failed
      rcases bind_eq_error.mp failed with here | ⟨state, stepped, later⟩
      · exact ⟨[], item, rest, start, rfl, rfl, here⟩
      · rcases induction later with ⟨before, found, after, reached, rfl, run, stopped⟩
        refine ⟨item :: before, found, after, reached, rfl, ?_, stopped⟩
        rw [List.foldlM_cons]
        exact bind_eq_ok.mpr ⟨state, stepped, run⟩

end Steps

/-! ## Kinds of failures -/

namespace Failure

variable {α : Type}

@[simp] theorem is_cause (kind : Kind) (leaf : Cause) :
    (Failure.cause leaf).is kind = (leaf.kind == kind) := by
  rw [Failure.is]

@[simp] theorem is_within (kind : Kind) (place : String) (failure : Failure) :
    (Failure.within place failure).is kind = failure.is kind := by
  rw [Failure.is]

theorem anyIs_iff {kind : Kind} {failures : List Failure} :
    anyIs kind failures = true ↔ ∃ failure ∈ failures, failure.is kind = true := by
  induction failures with
  | nil => simp [anyIs]
  | cons failure rest induction => simp [anyIs, induction]

theorem is_many_iff {kind : Kind} {failures : List Failure} :
    (Failure.many failures).is kind = true ↔
      kind = .multiple ∨ ∃ failure ∈ failures, failure.is kind = true := by
  rw [Failure.is, Bool.or_eq_true, beq_iff_eq, anyIs_iff]

theorem checkAll_eq_ok {failures : List Failure} : checkAll failures = .ok () ↔ failures = [] := by
  match failures with
  | [] => simp [checkAll, combine]
  | [failure] => simp [checkAll, combine]
  | first :: second :: rest => simp [checkAll, combine]

/-- Collecting failures loses none of their kinds and adds only that they are several. -/
theorem is_of_checkAll {failures : List Failure} {collected : Failure}
    (failed : checkAll failures = .error collected) (kind : Kind) :
    collected.is kind = true ↔
      (∃ failure ∈ failures, failure.is kind = true) ∨
        kind = .multiple ∧ 2 ≤ failures.length := by
  match failures with
  | [] => simp [checkAll, combine] at failed
  | [failure] =>
      have equal : failure = collected := by simpa [checkAll, combine] using failed
      simp [equal]
  | first :: second :: rest =>
      have equal : Failure.many (first :: second :: rest) = collected := by
        simpa [checkAll, combine] using failed
      rw [← equal, is_many_iff]
      simp [or_comm]

theorem mem_or_many_of_checkAll {failures : List Failure} {collected : Failure}
    (failed : checkAll failures = .error collected) :
    collected ∈ failures ∨ collected = .many failures := by
  match failures with
  | [] => simp [checkAll, combine] at failed
  | [failure] =>
      have equal : failure = collected := by simpa [checkAll, combine] using failed
      exact .inl (by simp [equal])
  | first :: second :: rest =>
      exact .inr (by simpa [checkAll, combine, eq_comm] using failed)

theorem ofOutcome?_eq_some {outcome : Except Failure α} {failure : Failure} :
    ofOutcome? outcome = some failure ↔ outcome = .error failure := by
  cases outcome <;> simp [ofOutcome?]

theorem atPlace_eq_ok {place : String} {outcome : Except Failure α} {value : α} :
    atPlace place outcome = .ok value ↔ outcome = .ok value :=
  Steps.mapError_eq_ok

theorem toOption_atPlace (place : String) (outcome : Except Failure α) :
    (atPlace place outcome).toOption = outcome.toOption := by
  cases outcome <;> rfl

theorem atPlace_eq_error {place : String} {outcome : Except Failure α} {failure : Failure} :
    atPlace place outcome = .error failure ↔
      ∃ inner, outcome = .error inner ∧ failure = .within place inner := by
  cases outcome with
  | error inner => simp [atPlace, Except.mapError, eq_comm]
  | ok value => simp [atPlace, Except.mapError]

end Failure

end PageSketch
