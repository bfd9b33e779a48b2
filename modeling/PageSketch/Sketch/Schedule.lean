import PageSketch.Cancellation

/-! # Schedules of independent work

Items are worked on by several workers at once. A schedule tells in which order
they are taken up, with the state of the world at that moment, and in which order
the outcomes come in. The outcome of every item has its own place, so that the
result does not depend on either order. -/

namespace PageSketch

/-- How work on `count` items goes on. Every item is taken up once and comes in once. -/
structure Schedule (count : Nat) where
  /-- Why there are no workers, if they cannot be had. -/
  fault : Option String := none
  taken : List (Fin count × Signals)
  stored : List (Fin count)
  taken_complete : (taken.map (·.1)).Perm (List.finRange count)
  stored_complete : stored.Perm (List.finRange count)

namespace Schedule

/-- At no time are more than `workers` items in progress, as the outcome that comes
in after `index` others is of an item taken up after fewer than `index + workers`. -/
def Fits (workers : Nat) {count : Nat} (schedule : Schedule count) : Prop :=
  ∀ (index : Nat) (item : Fin count), schedule.stored[index]? = some item →
    item ∈ (schedule.taken.take (index + workers)).map (·.1)

/-- One item after the other, each at its own moment. -/
def sequential (count : Nat) (moment : Nat → Signals) : Schedule count where
  taken := (List.finRange count).map fun item => (item, moment item)
  stored := List.finRange count
  taken_complete := by simp [Function.comp_def]
  stored_complete := .refl _

theorem sequential_fits (count : Nat) (moment : Nat → Signals) :
    (sequential count moment).Fits 1 := by
  intro index item stored
  have taken : ((List.finRange count).take (index + 1))[index]? = some item := by
    rw [List.getElem?_take_of_lt (Nat.lt_succ_self index)]
    exact stored
  rw [sequential, ← List.map_take, List.map_map, List.mem_map]
  exact ⟨item, List.mem_of_getElem? taken, rfl⟩

variable {β γ : Type}

def momentOf {count : Nat} (schedule : Schedule count) (item : Fin count) : Signals :=
  (schedule.taken.lookup item).getD {}

/-- The places of all outcomes when everything has come in. -/
def run (items : List β) (schedule : Schedule items.length) (work : Signals → β → γ) :
    List (Option γ) :=
  schedule.stored.foldl
    (fun places (item : Fin items.length) =>
      places.set item (some (work (schedule.momentOf item) items[item])))
    (List.replicate items.length none)

/-- The results in all places, or the failure of the first place that has none. -/
def gather (places : List (Option (Except Failure γ))) : Except Failure (List γ) :=
  (places.filterMap id).mapM id

/-- The results of all items if each has one, else the failure of the first item
that has none. A single item needs no workers. -/
def collect (items : List β) (schedule : Schedule items.length)
    (work : Signals → β → Except Failure γ) : Except Failure (List γ) :=
  match items, schedule with
  | [], _ => .ok []
  | [item], schedule => return [← work (schedule.momentOf ⟨0, Nat.one_pos⟩) item]
  | first :: second :: rest, schedule =>
      match schedule.fault with
      | some fault => .error (.cause (.threadPool fault))
      | none => gather (schedule.run (first :: second :: rest) work)

end Schedule

end PageSketch
