import Mathlib.Data.List.Basic
import PageSketch.Cancellation

/-! # Work along a timeline

Work on items in turn sees the moments of a timeline one by one: what comes of an item is
what comes of it at the moment with its number. -/

namespace PageSketch.Timeline

variable {β γ : Type}

/-- What is seen after some looks. -/
def later (timeline : Timeline) (looks : Nat) : Timeline := fun index => timeline (looks + index)

theorem later_zero (timeline : Timeline) : timeline.later 0 = timeline :=
  funext fun index => congrArg timeline (Nat.zero_add index)

theorem later_later (timeline : Timeline) (first second : Nat) :
    (timeline.later first).later second = timeline.later (first + second) :=
  funext fun index => congrArg timeline (Nat.add_assoc first second index).symm

theorem follow_look (timeline : Timeline) :
    timeline.follow look = (timeline 0, timeline.later 1) := by
  have next : timeline.later 1 = fun index => timeline (index + 1) :=
    funext fun index => congrArg timeline (Nat.add_comm 1 index)
  rw [next]
  rfl

theorem follow_bind (timeline : Timeline) (first : StateM Timeline β)
    (next : β → StateM Timeline γ) :
    timeline.follow (first >>= next) =
      (timeline.follow first).2.follow (next (timeline.follow first).1) := rfl

/-! ## Work that may fail -/

theorem follow_run_bind (timeline : Timeline) (first : ExceptT Failure (StateM Timeline) β)
    (next : β → ExceptT Failure (StateM Timeline) γ) :
    timeline.follow (first >>= next).run =
      match timeline.follow first.run with
      | (.ok value, rest) => rest.follow (next value).run
      | (.error failure, rest) => (.error failure, rest) := by
  change (match timeline.follow first.run with
    | (outcome, rest) => rest.follow (ExceptT.bindCont next outcome)) = _
  rcases timeline.follow first.run with ⟨outcome, rest⟩
  cases outcome <;> rfl

variable {work : Signals → β → Except Failure γ}

theorem follow_inTurn_cons (timeline : Timeline) (item : β) (rest : List β) :
    timeline.follow (Signals.inTurn look work (item :: rest)).run =
      match work (timeline 0) item with
      | .error failure => (.error failure, timeline.later 1)
      | .ok value =>
          let (values, last) := (timeline.later 1).follow (Signals.inTurn look work rest).run
          (values.map (value :: ·), last) := by
  have step : timeline.follow
      (do work (← look) item : ExceptT Failure (StateM Timeline) γ).run =
        (work (timeline 0) item, timeline.later 1) := by
    change (work (timeline.follow look).1 item, (timeline.follow look).2) = _
    rw [follow_look]
  rw [Signals.inTurn, List.mapM_cons, follow_run_bind, step]
  cases work (timeline 0) item with
  | error failure => rfl
  | ok value =>
      dsimp only
      rw [follow_run_bind, ← Signals.inTurn]
      rcases (timeline.later 1).follow (Signals.inTurn look work rest).run with ⟨outcome, last⟩
      cases outcome <;> rfl

theorem follow_inTurn_later (timeline : Timeline) (looks : Nat) (items : List β) :
    ((timeline.later looks).follow (Signals.inTurn look work items).run).1 =
      (items.zipIdx looks).mapM fun entry => work (timeline entry.2) entry.1 := by
  induction items generalizing looks with
  | nil => rfl
  | cons item rest induction =>
      rw [follow_inTurn_cons, List.zipIdx_cons, List.mapM_cons, ← induction (looks + 1),
        later_later, later, Nat.add_zero]
      dsimp only
      cases work (timeline looks) item with
      | error failure => rfl
      | ok value =>
          rcases (timeline.later (looks + 1)).follow (Signals.inTurn look work rest).run with
            ⟨outcome, last⟩
          cases outcome <;> rfl

/-- Work on items in turn takes up each item at the moment with its number. -/
theorem follow_inTurn (timeline : Timeline) (work : Signals → β → Except Failure γ)
    (items : List β) :
    (timeline.follow (Signals.inTurn look work items).run).1 =
      items.zipIdx.mapM fun entry => work (timeline entry.2) entry.1 := by
  rw [← timeline.follow_inTurn_later 0, later_zero]

end PageSketch.Timeline
