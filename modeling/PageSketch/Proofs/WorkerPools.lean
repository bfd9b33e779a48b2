import Mathlib.Data.List.Perm.Basic
import Mathlib.Logic.Relation
import PageSketch.Proofs.ScheduledWork
import PageSketch.Sketch.WorkerPool

/-! # Work of several workers

However the actions of workers interleave, with each other and with the raising of flags,
the work follows a schedule: the pool keeps a history of what has been taken up and of what
has come in, and when everything has, the history is one. -/

namespace PageSketch

/-! ## Moments -/

namespace Signals

variable {first second third : Signals}

theorem Before.refl (signals : Signals) : signals.Before signals :=
  ⟨List.Subset.refl _, Nat.le_refl _⟩

theorem Before.trans (former : first.Before second) (latter : second.Before third) :
    first.Before third :=
  ⟨fun _ raised => latter.1 (former.1 raised), Nat.le_trans former.2 latter.2⟩

end Signals

namespace CancelToken

variable {token : CancelToken} {signals later : Signals}

theorem before_cancel (token : CancelToken) (signals : Signals) :
    signals.Before (token.cancel signals) :=
  ⟨List.subset_cons_self _ _, Nat.le_refl _⟩

theorem check_eq_ok : token.check signals = .ok () ↔
    token.flag ∉ signals.raised ∧ ∀ deadline ∈ token.deadline, signals.now < deadline := by
  rw [check, stopped?, isCancelled]
  by_cases raised : token.flag ∈ signals.raised <;>
    cases expiry : token.deadline <;>
    simp [raised]
  split <;> rename_i outcome <;> split at outcome <;> simp_all

/-- A check that fails goes on to fail. -/
theorem check_of_before (order : signals.Before later) (passed : token.check later = .ok ()) :
    token.check signals = .ok () := by
  rcases check_eq_ok.mp passed with ⟨lowered, early⟩
  refine check_eq_ok.mpr ⟨fun raised => lowered (order.1 raised), fun deadline given => ?_⟩
  exact lt_of_le_of_lt order.2 (early deadline given)

end CancelToken

namespace WorkerPool

variable {count workers : Nat} {γ : Type} {work : Signals → Fin count → γ}
  {pool next : WorkerPool count γ}

/-- The work may be stopped between any two actions. -/
theorem step_cancel (token : CancelToken) (pool : WorkerPool count γ) :
    Step workers work pool { pool with signals := token.cancel pool.signals } :=
  .pass (token.before_cancel pool.signals)

/-! ## Progress -/

/-- As long as something is missing, some worker can act. -/
theorem exists_act (staffed : 0 < workers) (unfinished : ¬pool.Complete) :
    ∃ next, Act workers work pool next := by
  obtain ⟨signals, waiting, picked, working, places⟩ := pool
  match working, picked, waiting with
  | (item, outcome) :: rest, picked, waiting =>
      have act : Act workers work ⟨signals, waiting, picked, [] ++ (item, outcome) :: rest, places⟩
          ⟨signals, waiting, picked, rest, places.set item (some outcome)⟩ := .store
      exact ⟨_, act⟩
  | [], item :: rest, waiting =>
      have act : Act workers work ⟨signals, waiting, [] ++ item :: rest, [], places⟩
          ⟨signals, waiting, rest, [(item, work signals item)], places⟩ := .look
      exact ⟨_, act⟩
  | [], [], item :: rest =>
      have act : Act workers work ⟨signals, [] ++ item :: rest, [], [], places⟩
          ⟨signals, rest, [item], [], places⟩ := .pick staffed
      exact ⟨_, act⟩
  | [], [], [] => exact absurd ⟨rfl, rfl, rfl⟩ unfinished

theorem left_of_act (act : Act workers work pool next) : next.left < pool.left := by
  cases act <;> simp [left] <;> omega

/-- The work can always be brought to its end. -/
theorem exists_complete (staffed : 0 < workers) (pool : WorkerPool count γ) :
    ∃ last, Relation.ReflTransGen (Step workers work) pool last ∧ last.Complete := by
  by_cases complete : pool.Complete
  · exact ⟨pool, .refl, complete⟩
  · have more : ∃ next, Act workers work pool next := exists_act staffed complete
    rcases more with ⟨next, act⟩
    have closer := left_of_act act
    rcases exists_complete staffed next with ⟨last, run, complete⟩
    exact ⟨last, .head (.act act) run, complete⟩
termination_by pool.left

/-! ## Histories -/

/-- What has happened in a pool: the items that have been taken up, each with its moment,
and those whose outcomes have come in. -/
structure History (workers : Nat) (work : Signals → Fin count → γ) (pool : WorkerPool count γ)
    (taken : List (Fin count × Signals)) (stored : List (Fin count)) : Prop where
  /-- Every item is somewhere, and only once. -/
  whole : (pool.waiting ++ pool.picked ++ taken.map Prod.fst).Perm (List.finRange count)
  apart : (taken.map Prod.fst).Perm (pool.working.map Prod.fst ++ stored)
  few : pool.picked.length + pool.working.length ≤ workers
  outcome : ∀ entry ∈ pool.working, entry.2 = work (Schedule.momentIn taken entry.1) entry.1
  places : pool.places =
    Schedule.fill (fun item => work (Schedule.momentIn taken item) item) stored
  fits : ∀ (index : Nat) (item : Fin count), stored[index]? = some item →
    item ∈ (taken.take (index + workers)).map Prod.fst
  forward : taken.Pairwise fun earlier later => earlier.2.Before later.2
  past : ∀ entry ∈ taken, entry.2.Before pool.signals

namespace History

variable {signals later : Signals} {waiting picked before after stored : List (Fin count)}
  {item : Fin count} {working first last : List (Fin count × γ)} {outcome : γ}
  {places : List (Option γ)} {taken : List (Fin count × Signals)}

theorem start (signals : Signals) : History workers work (.start count γ signals) [] [] where
  whole := by simp [WorkerPool.start]
  apart := .refl _
  few := Nat.zero_le _
  outcome := by simp [WorkerPool.start]
  places := rfl
  fits := by simp
  forward := .nil
  past := by simp

theorem pick
    (history : History workers work ⟨signals, before ++ item :: after, picked, working, places⟩
      taken stored)
    (free : picked.length + working.length < workers) :
    History workers work ⟨signals, before ++ after, item :: picked, working, places⟩
      taken stored where
  whole := by
    refine List.Perm.trans ?_ history.whole
    simp only [List.append_assoc, List.cons_append]
    exact List.perm_middle.append_left before
  apart := history.apart
  few := by
    simp only [List.length_cons]
    omega
  outcome := history.outcome
  places := history.places
  fits := history.fits
  forward := history.forward
  past := history.past

/-- An item is taken up only once. -/
theorem fresh
    (history : History workers work ⟨signals, waiting, before ++ item :: after, working, places⟩
      taken stored) :
    item ∉ taken.map Prod.fst := by
  intro member
  have distinct := history.whole.nodup_iff.mpr (List.nodup_finRange count)
  exact (List.nodup_append.mp distinct).2.2 item (by simp) item member rfl

theorem look
    (history : History workers work ⟨signals, waiting, before ++ item :: after, working, places⟩
      taken stored) :
    History workers work
      ⟨signals, waiting, before ++ after, (item, work signals item) :: working, places⟩
      (taken ++ [(item, signals)]) stored where
  whole := by
    refine List.Perm.trans ?_ history.whole
    simp only [List.map_append, List.map_cons, List.map_nil, List.append_assoc, List.cons_append]
    refine List.Perm.append_left waiting (List.Perm.append_left before ?_)
    rw [← List.append_assoc]
    exact List.perm_append_singleton item _
  apart := by
    simp only [List.map_append, List.map_cons, List.map_nil, List.cons_append]
    exact (List.perm_append_singleton item _).trans (history.apart.cons item)
  few := by
    have few := history.few
    simp only [List.length_append, List.length_cons] at few ⊢
    omega
  outcome entry member := by
    rcases List.mem_cons.mp member with here | member
    · rw [here, Schedule.momentIn_concat history.fresh]
    · have present : entry.1 ∈ taken.map Prod.fst :=
        history.apart.mem_iff.mpr (List.mem_append_left stored (List.mem_map_of_mem member))
      rw [Schedule.momentIn_append present]
      exact history.outcome entry member
  places := by
    rw [history.places]
    apply Schedule.fill_congr
    intro other member
    have present : other ∈ taken.map Prod.fst :=
      history.apart.mem_iff.mpr (List.mem_append_right _ member)
    rw [Schedule.momentIn_append present]
  fits index other here := by
    rw [List.take_append, List.map_append]
    exact List.mem_append_left _ (history.fits index other here)
  forward := by
    refine List.pairwise_append.mpr ⟨history.forward, List.pairwise_singleton .., ?_⟩
    intro earlier member entry last
    rw [List.mem_singleton.mp last]
    exact history.past earlier member
  past entry member := by
    rcases List.mem_append.mp member with member | last
    · exact history.past entry member
    · rw [List.mem_singleton.mp last]
      exact .refl signals

theorem store
    (history : History workers work
      ⟨signals, waiting, picked, first ++ (item, outcome) :: last, places⟩ taken stored) :
    History workers work
      ⟨signals, waiting, picked, first ++ last, places.set item (some outcome)⟩
      taken (stored ++ [item]) where
  whole := history.whole
  apart := by
    refine history.apart.trans ?_
    simp only [List.map_append, List.map_cons, List.append_assoc, List.cons_append]
    refine List.Perm.append_left _ ?_
    rw [← List.append_assoc]
    exact (List.perm_append_singleton item _).symm
  few := by
    have few := history.few
    simp only [List.length_append, List.length_cons] at few ⊢
    omega
  outcome entry member := by
    refine history.outcome entry ?_
    rcases List.mem_append.mp member with member | member
    · exact List.mem_append_left _ member
    · exact List.mem_append_right _ (List.mem_cons_of_mem _ member)
  places := by
    have known := history.outcome (item, outcome) (by simp)
    rw [Schedule.fill_concat, ← known, ← history.places]
  fits index other here := by
    have lengths := history.apart.length_eq
    have few := history.few
    simp only [List.length_append, List.length_map, List.length_cons] at lengths few
    by_cases small : index < stored.length
    · rw [List.getElem?_append_left small] at here
      exact history.fits index other here
    · -- No more items are in progress than there are workers, so that all that have been taken
      -- up are among the first ones.
      have everything : taken.take (index + workers) = taken :=
        List.take_of_length_le (by omega)
      rw [everything, history.apart.mem_iff]
      have listed := List.mem_of_getElem? here
      rcases List.mem_append.mp listed with member | equal
      · exact List.mem_append_right _ member
      · rw [List.mem_singleton.mp equal]
        simp
  forward := history.forward
  past := history.past

theorem pass (history : History workers work pool taken stored)
    (order : pool.signals.Before later) :
    History workers work { pool with signals := later } taken stored where
  whole := history.whole
  apart := history.apart
  few := history.few
  outcome := history.outcome
  places := history.places
  fits := history.fits
  forward := history.forward
  past entry member := (history.past entry member).trans order

theorem step (history : History workers work pool taken stored)
    (step : Step workers work pool next) :
    ∃ taken stored, History workers work next taken stored := by
  cases step with
  | pass order => exact ⟨taken, stored, history.pass order⟩
  | act act =>
      cases act with
      | pick free => exact ⟨taken, stored, history.pick free⟩
      | look => exact ⟨_, stored, history.look⟩
      | store => exact ⟨taken, _, history.store⟩

/-- When everything has come in, the history is a schedule. -/
theorem exists_schedule (history : History workers work pool taken stored)
    (complete : pool.Complete) :
    ∃ schedule : Schedule count, schedule.fault = none ∧ schedule.Fits workers ∧
      schedule.taken = taken ∧
      pool.places =
        Schedule.fill (fun item => work (schedule.momentOf item) item) schedule.stored := by
  obtain ⟨signals, waiting, picked, working, places⟩ := pool
  obtain ⟨rfl, rfl, rfl⟩ := complete
  let schedule : Schedule count :=
    { taken
      stored
      taken_complete := history.whole
      stored_complete := history.apart.symm.trans history.whole }
  exact ⟨schedule, rfl, history.fits, rfl, history.places⟩

end History

theorem exists_history {signals : Signals}
    (run : Relation.ReflTransGen (Step workers work) (.start count γ signals) pool) :
    ∃ taken stored, History workers work pool taken stored := by
  induction run with
  | refl => exact ⟨[], [], .start signals⟩
  | tail _ step induction =>
      rcases induction with ⟨taken, stored, history⟩
      exact history.step step

end WorkerPool

namespace Sketch

variable {α : Type} [Scalar α] [SpatialIndex α]

/-- What a worker makes of a page that it has taken. -/
def pageWork (sketch : Sketch α) (token : CancelToken) (pages : List (Page α))
    (signals : Signals) (index : Fin pages.length) : Except Failure (PageReport α) :=
  sketch.analyzeUnlessStopped token signals (pages.get index)

/-- When everything has come in, the results are those of a schedule. -/
theorem exists_schedule_of_run {sketch : Sketch α} {token : CancelToken} {pages : List (Page α)}
    {workers : Nat} {signals : Signals}
    {pool : WorkerPool pages.length (Except Failure (PageReport α))}
    (run : Relation.ReflTransGen (WorkerPool.Step workers (sketch.pageWork token pages))
      (.start pages.length _ signals) pool)
    (complete : pool.Complete) :
    ∃ schedule : Schedule pages.length, schedule.fault = none ∧ schedule.Fits workers ∧
      (schedule.taken.Pairwise fun earlier later =>
        token.check later.2 = .ok () → token.check earlier.2 = .ok ()) ∧
      sketch.analyzePages token pages schedule = Schedule.gather pool.places := by
  rcases WorkerPool.exists_history run with ⟨taken, stored, history⟩
  rcases history.exists_schedule complete with ⟨schedule, staffed, fits, same, places⟩
  refine ⟨schedule, staffed, fits, ?_, ?_⟩
  · rw [same]
    apply history.forward.imp
    intro earlier later order
    exact CancelToken.check_of_before order
  · rw [analyzePages, Schedule.collect_eq (.inl staffed), places]
    rfl

/-- Pages are analyzed by any number of workers that act in any order, while flags are raised
and time passes. The workers get done, and what they bring in is what the analysis gives with
some schedule. With every schedule there are either all reports, each in its place, or there
is the failure of the first page without a report; and if nothing stops the work, the result
is that of going through the pages one by one. -/
theorem analyzePages_of_interleaving (sketch : Sketch α) (options : AnalysisOptions)
    (pages : List (Page α)) :
    (∀ pool : WorkerPool pages.length (Except Failure (PageReport α)),
      (pool.Complete ∨ ∃ next, WorkerPool.Act (options.workersFor pages.length)
        (sketch.pageWork options.token pages) pool next) ∧
      ∀ next, WorkerPool.Act (options.workersFor pages.length)
        (sketch.pageWork options.token pages) pool next → next.left < pool.left) ∧
    (∀ signals pool, Relation.ReflTransGen
        (WorkerPool.Step (options.workersFor pages.length) (sketch.pageWork options.token pages))
        (.start pages.length _ signals) pool → pool.Complete →
      ∃ schedule : Schedule pages.length, schedule.fault = none ∧
        schedule.Fits (options.workersFor pages.length) ∧
        (schedule.taken.Pairwise fun earlier later =>
          options.token.check later.2 = .ok () → options.token.check earlier.2 = .ok ()) ∧
        sketch.analyzePages options.token pages schedule = Schedule.gather pool.places) ∧
    ∀ schedule : Schedule pages.length, schedule.fault = none ∨ pages.length ≤ 1 →
      sketch.Settles options.token pages schedule.momentOf
        (sketch.analyzePages options.token pages schedule) ∧
      ((∀ entry ∈ schedule.taken, options.token.check entry.2 = .ok ()) →
        sketch.analyzePages options.token pages schedule = pages.mapM sketch.analyzePage) := by
  have staffed : 0 < options.workersFor pages.length := Nat.le_max_left ..
  refine ⟨?_, ?_, ?_⟩
  · intro pool
    refine ⟨?_, fun next act => WorkerPool.left_of_act act⟩
    rcases Classical.em pool.Complete with complete | unfinished
    · exact .inl complete
    · exact .inr (WorkerPool.exists_act staffed unfinished)
  · intro signals pool run complete
    exact exists_schedule_of_run run complete
  · intro schedule available
    exact ⟨settles_analyzePages available, analyzePages_eq_mapM available⟩

end Sketch

end PageSketch
