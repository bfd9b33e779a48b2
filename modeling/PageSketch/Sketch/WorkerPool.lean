import PageSketch.Sketch.Schedule

/-! # Worker pools

How a schedule comes about. A worker that is free takes an item, looks at the world,
and brings the outcome to the place of the item. Workers act one at a time in any
order, and the world moves on between their actions. -/

namespace PageSketch

/-- One moment comes before another: raised flags stay so, and the clock does not go back. -/
def Signals.Before (signals later : Signals) : Prop :=
  signals.raised ⊆ later.raised ∧ signals.now ≤ later.now

structure WorkerPool (count : Nat) (γ : Type) where
  signals : Signals
  waiting : List (Fin count)
  /-- The items of workers that have not yet looked at the world. -/
  picked : List (Fin count)
  /-- The items of workers that have, with the outcome to which this leads. -/
  working : List (Fin count × γ)
  places : List (Option γ)

namespace WorkerPool

variable {count : Nat} {γ : Type}

def start (count : Nat) (γ : Type) (signals : Signals) : WorkerPool count γ :=
  ⟨signals, List.finRange count, [], [], List.replicate count none⟩

def Complete (pool : WorkerPool count γ) : Prop :=
  pool.waiting = [] ∧ pool.picked = [] ∧ pool.working = []

/-- How many actions it takes until everything has come in. -/
def left (pool : WorkerPool count γ) : Nat :=
  3 * pool.waiting.length + 2 * pool.picked.length + pool.working.length

/-- What a worker does next, if there are no more than `workers` of them. -/
inductive Act (workers : Nat) (work : Signals → Fin count → γ) :
    WorkerPool count γ → WorkerPool count γ → Prop
  | pick {signals : Signals} {before after picked : List (Fin count)} {item : Fin count}
      {working : List (Fin count × γ)} {places : List (Option γ)}
      (free : picked.length + working.length < workers) :
      Act workers work ⟨signals, before ++ item :: after, picked, working, places⟩
        ⟨signals, before ++ after, item :: picked, working, places⟩
  | look {signals : Signals} {waiting before after : List (Fin count)} {item : Fin count}
      {working : List (Fin count × γ)} {places : List (Option γ)} :
      Act workers work ⟨signals, waiting, before ++ item :: after, working, places⟩
        ⟨signals, waiting, before ++ after, (item, work signals item) :: working, places⟩
  | store {signals : Signals} {waiting picked : List (Fin count)} {item : Fin count}
      {outcome : γ} {before after : List (Fin count × γ)} {places : List (Option γ)} :
      Act workers work ⟨signals, waiting, picked, before ++ (item, outcome) :: after, places⟩
        ⟨signals, waiting, picked, before ++ after, places.set item (some outcome)⟩

/-- A worker acts, or time passes, in which flags may be raised. -/
inductive Step (workers : Nat) (work : Signals → Fin count → γ) :
    WorkerPool count γ → WorkerPool count γ → Prop
  | act {pool next} (act : Act workers work pool next) : Step workers work pool next
  | pass {pool signals} (later : pool.signals.Before signals) :
      Step workers work pool { pool with signals }

end WorkerPool

end PageSketch
