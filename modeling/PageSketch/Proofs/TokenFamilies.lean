import Mathlib.Order.Bounds.Basic
import Mathlib.Order.Lattice.Nat
import PageSketch.Proofs.WorkerPools
import PageSketch.TokenFamily

/-! # Cancellation in families of tokens

All members of a family watch one flag, and the deadline of a member is the earliest one that
was asked for on its way from the root. As raised flags stay raised and the clock does not go
back, a check that fails goes on to fail, for the member and for all that was made from it. -/

namespace PageSketch

/-! ## Earliest deadlines -/

/-- The deadline is the earliest one, and there is none only if there is nothing to choose from. -/
def IsEarliest (deadline? : Option Nat) (deadlines : Set Nat) : Prop :=
  match deadline? with
  | some deadline => IsLeast deadlines deadline
  | none => deadlines = ∅

namespace IsEarliest

variable {first? second? deadline? : Option Nat} {first second deadlines : Set Nat}

theorem of_asked (asked : Option Nat) : IsEarliest asked { deadline | asked = some deadline } := by
  cases asked with
  | none => exact Set.eq_empty_of_forall_notMem nofun
  | some deadline =>
      refine ⟨rfl, fun other same => ?_⟩
      exact (Option.some.inj same).le

theorem union (former : IsEarliest first? first) (latter : IsEarliest second? second) :
    IsEarliest (first?.merge min second?) (first ∪ second) := by
  cases first? with
  | none =>
      have nothing : first = ∅ := former
      rw [nothing, Set.empty_union, Option.merge_none_left]
      exact latter
  | some _ =>
      cases second? with
      | none =>
          have nothing : second = ∅ := latter
          rw [nothing, Set.union_empty, Option.merge_none_right]
          exact former
      | some _ => exact IsLeast.union former latter

theorem eq_some_iff (earliest : IsEarliest deadline? deadlines) (deadline : Nat) :
    deadline? = some deadline ↔ IsLeast deadlines deadline := by
  cases deadline? with
  | none =>
      have nothing : deadlines = ∅ := earliest
      simp [nothing, IsLeast]
  | some given =>
      have least : IsLeast deadlines given := earliest
      rw [Option.some_inj]
      constructor
      · intro same
        rwa [← same]
      · intro also
        exact least.unique also

theorem eq_none_iff (earliest : IsEarliest deadline? deadlines) :
    deadline? = none ↔ deadlines = ∅ := by
  cases deadline? with
  | none => exact iff_of_true rfl earliest
  | some given =>
      have least : IsLeast deadlines given := earliest
      exact iff_of_false nofun (Set.nonempty_iff_ne_empty.mp ⟨given, least.1⟩)

/-- A moment lies before the earliest deadline if it lies before all of them. -/
theorem forall_lt_iff (earliest : IsEarliest deadline? deadlines) (now : Nat) :
    (∀ deadline ∈ deadline?, now < deadline) ↔ ∀ deadline ∈ deadlines, now < deadline := by
  constructor
  · intro early deadline asked
    cases deadline? with
    | none =>
        have nothing : deadlines = ∅ := earliest
        rw [nothing] at asked
        cases asked
    | some given =>
        have least : IsLeast deadlines given := earliest
        exact (early given rfl).trans_le (least.2 asked)
  · intro early deadline given
    exact early deadline ((earliest.eq_some_iff deadline).mp given).1

end IsEarliest

/-! ## Tokens -/

namespace CancelToken

/-- The work of the token has to stop. -/
def Fails (token : CancelToken) (signals : Signals) : Prop :=
  ∃ failure, token.check signals = .error failure

variable {token derived : CancelToken} {signals later : Signals} {derivation : Derivation}

theorem not_fails_iff : ¬token.Fails signals ↔ token.check signals = .ok () := by
  rw [Fails]
  cases token.check signals with
  | error failure => simp
  | ok _ => simp

theorem Fails.of_before (fails : token.Fails signals) (order : signals.Before later) :
    token.Fails later := by
  by_contra passed
  exact not_fails_iff.mpr (check_of_before order (not_fails_iff.mp passed)) fails

theorem check_of_raised (raised : token.flag ∈ signals.raised) :
    token.check signals = .error (.cause .cancelled) := by
  have cancelled : token.isCancelled signals = true := List.contains_iff_mem.mpr raised
  rw [check, stopped?, if_pos cancelled]

theorem deadline_withDeadline (token : CancelToken) (deadline : Nat) :
    (token.withDeadline deadline).deadline = token.deadline.merge min (some deadline) := by
  rw [withDeadline]
  cases token.deadline <;> rfl

/-- Whatever is made from a token has the same flag, and it expires no later. -/
theorem of_derive? (made : token.derive? signals derivation = some derived) :
    derived.flag = token.flag ∧
      derived.deadline = token.deadline.merge min (derivation.deadline? signals) := by
  cases derivation with
  | clone =>
      cases made
      exact ⟨rfl, (Option.merge_none_right ..).symm⟩
  | withDeadline deadline =>
      cases made
      exact ⟨rfl, token.deadline_withDeadline deadline⟩
  | withTimeout seconds =>
      rw [derive?, withTimeout?] at made
      split at made
      · cases made
        exact ⟨rfl, token.deadline_withDeadline (signals.now + seconds)⟩
      · cases made

end CancelToken

/-! ## Families -/

namespace TokenFamily

/-- One member was made from another one. -/
def IsParent (family : TokenFamily) (parent child : Nat) : Prop :=
  ∃ member, family.members[child]? = some member ∧ member.parent = some parent

/-- A member is another one, or it was made from that, perhaps through others. -/
def DerivedFrom (family : TokenFamily) : (ancestor descendant : Nat) → Prop :=
  Relation.ReflTransGen family.IsParent

/-- All deadlines that were asked for on the way from the root to a member. -/
def deadlines (family : TokenFamily) (index : Nat) : Set Nat :=
  { deadline | ∃ ancestor member, family.DerivedFrom ancestor index ∧
    family.members[ancestor]? = some member ∧ member.asked = some deadline }

variable {root : CancelToken} {family next early last : TokenFamily} {event : Event}
  {events : List Event} {index : Nat} {member : FamilyMember}

theorem deadlines_subset {ancestor descendant : Nat}
    (derived : family.DerivedFrom ancestor descendant) :
    family.deadlines ancestor ⊆ family.deadlines descendant := by
  intro deadline above
  rcases above with ⟨earlier, member, before, here, asked⟩
  exact ⟨earlier, member, before.trans derived, here, asked⟩

theorem deadlines_of_root (here : family.members[index]? = some member)
    (root : member.parent = none) :
    family.deadlines index = { deadline | member.asked = some deadline } := by
  ext deadline
  constructor
  · intro above
    rcases above with ⟨ancestor, other, derived, there, asked⟩
    rcases derived.cases_tail with same | ⟨parent, _, found, made, parented⟩
    · subst same
      rw [here] at there
      cases there
      exact asked
    · rw [here] at made
      cases made
      rw [root] at parented
      cases parented
  · intro asked
    exact ⟨index, member, .refl, here, asked⟩

theorem deadlines_of_parent {parent : Nat} (here : family.members[index]? = some member)
    (made : member.parent = some parent) :
    family.deadlines index =
      family.deadlines parent ∪ { deadline | member.asked = some deadline } := by
  ext deadline
  constructor
  · intro above
    rcases above with ⟨ancestor, other, derived, there, asked⟩
    rcases derived.cases_tail with same | ⟨middle, before, found, same, parented⟩
    · subst same
      rw [here] at there
      cases there
      exact .inr asked
    · rw [here] at same
      cases same
      rw [made] at parented
      cases parented
      exact .inl ⟨ancestor, other, before, there, asked⟩
  · intro either
    rcases either with above | asked
    · exact deadlines_subset (.single ⟨member, here, made⟩) above
    · exact ⟨index, member, .refl, here, asked⟩

/-! ## Single events -/

/-- An event adds a member, raises the flag of one, or lets time pass. -/
theorem step?_eq_some (stepped : family.step? event = some next) :
    (∃ parent derivation member token, event = .derive parent derivation ∧
      family.members[parent]? = some member ∧
      member.token.derive? family.signals derivation = some token ∧
      next = { family with
        members := family.members ++
          [⟨token, some parent, derivation.deadline? family.signals⟩] }) ∨
    (∃ index member, event = .cancel index ∧ family.members[index]? = some member ∧
      next = { family with signals := member.token.cancel family.signals }) ∨
    ∃ seconds, event = .pass seconds ∧
      next = { family with
        signals := { family.signals with now := family.signals.now + seconds } } := by
  cases event with
  | derive parent derivation =>
      rcases Option.bind_eq_some_iff.mp stepped with ⟨member, here, made⟩
      rcases Option.bind_eq_some_iff.mp made with ⟨token, derived, equal⟩
      cases equal
      exact .inl ⟨parent, derivation, member, token, rfl, here, derived, rfl⟩
  | cancel index =>
      rcases Option.bind_eq_some_iff.mp stepped with ⟨member, here, equal⟩
      cases equal
      exact .inr (.inl ⟨index, member, rfl, here, rfl⟩)
  | pass seconds =>
      cases stepped
      exact .inr (.inr ⟨seconds, rfl, rfl⟩)

/-- A family only grows, and the world moves on. -/
structure GrowsInto (family later : TokenFamily) : Prop where
  signals : family.signals.Before later.signals
  members : family.members <+: later.members

theorem GrowsInto.refl (family : TokenFamily) : family.GrowsInto family :=
  ⟨.refl _, List.prefix_rfl⟩

theorem GrowsInto.trans {middle : TokenFamily} (former : family.GrowsInto middle)
    (latter : middle.GrowsInto last) : family.GrowsInto last :=
  ⟨former.signals.trans latter.signals, former.members.trans latter.members⟩

theorem GrowsInto.getElem? (grows : family.GrowsInto last)
    (here : family.members[index]? = some member) : last.members[index]? = some member := by
  rcases List.getElem?_eq_some_iff.mp here with ⟨inside, found⟩
  rw [← found]
  exact List.prefix_iff_getElem?.mp grows.members index inside

theorem growsInto_of_step (stepped : family.step? event = some next) : family.GrowsInto next := by
  rcases step?_eq_some stepped with
    ⟨_, _, _, _, _, _, _, rfl⟩ | ⟨_, member, _, _, rfl⟩ | ⟨seconds, _, rfl⟩
  · exact ⟨.refl _, List.prefix_append _ _⟩
  · exact ⟨member.token.before_cancel family.signals, List.prefix_rfl⟩
  · exact ⟨⟨List.Subset.refl _, Nat.le_add_right _ _⟩, List.prefix_rfl⟩

/-- Members have the flag of the root. Each one but the root comes after the one from which
it was made, and it has the earlier one of that deadline and its own. -/
structure DescendsFrom (root : CancelToken) (family : TokenFamily) : Prop where
  flag : ∀ member ∈ family.members, member.token.flag = root.flag
  made : ∀ (index : Nat) member, family.members[index]? = some member →
    (member.parent = none ∧ member.token.deadline = member.asked) ∨
      ∃ parent other, member.parent = some parent ∧ parent < index ∧
        family.members[parent]? = some other ∧
        member.token.deadline = other.token.deadline.merge min member.asked

theorem descendsFrom_start (root : CancelToken) (signals : Signals) :
    (start root signals).DescendsFrom root where
  flag := List.forall_mem_singleton.mpr rfl
  made index member here := by
    rcases List.getElem?_eq_some_iff.mp here with ⟨inside, found⟩
    cases List.mem_singleton.mp (List.mem_of_getElem? here)
    exact .inl ⟨rfl, rfl⟩

theorem DescendsFrom.add {parent : Nat} {derivation : Derivation} {token : CancelToken}
    (descends : family.DescendsFrom root) (here : family.members[parent]? = some member)
    (derived : member.token.derive? family.signals derivation = some token) :
    DescendsFrom root { family with
      members := family.members ++
        [⟨token, some parent, derivation.deadline? family.signals⟩] } := by
  rcases CancelToken.of_derive? derived with ⟨flag, deadline⟩
  have kept {index : Nat} {other added : FamilyMember}
      (found : family.members[index]? = some other) :
      (family.members ++ [added])[index]? = some other := by
    rw [List.getElem?_append_left (List.getElem?_eq_some_iff.mp found).1, found]
  constructor
  · refine List.forall_mem_append.mpr ⟨descends.flag, List.forall_mem_singleton.mpr ?_⟩
    exact flag.trans (descends.flag member (List.mem_of_getElem? here))
  · intro index other found
    rcases lt_or_ge index family.members.length with old | new
    · rw [List.getElem?_append_left old] at found
      rcases descends.made index other found with
        rooted | ⟨above, maker, named, before, there, deadline⟩
      · exact .inl rooted
      · exact .inr ⟨above, maker, named, before, kept there, deadline⟩
    · rw [List.getElem?_append_right new] at found
      cases List.mem_singleton.mp (List.mem_of_getElem? found)
      have before := (List.getElem?_eq_some_iff.mp here).1.trans_le new
      exact .inr ⟨parent, member, rfl, before, kept here, deadline⟩

theorem DescendsFrom.step (descends : family.DescendsFrom root)
    (stepped : family.step? event = some next) : next.DescendsFrom root := by
  rcases step?_eq_some stepped with
    ⟨_, _, _, _, _, here, derived, rfl⟩ | ⟨_, _, _, _, rfl⟩ | ⟨_, _, rfl⟩
  · exact descends.add here derived
  · exact ⟨descends.flag, descends.made⟩
  · exact ⟨descends.flag, descends.made⟩

/-! ## Histories -/

theorem run?_cons :
    family.run? (event :: events) = some last ↔
      ∃ next, family.step? event = some next ∧ next.run? events = some last := by
  rw [run?, List.foldlM_cons]
  exact Option.bind_eq_some_iff

theorem growsInto_of_run (ran : family.run? events = some last) : family.GrowsInto last := by
  induction events generalizing family with
  | nil =>
      cases ran
      exact .refl _
  | cons event rest induction =>
      rcases run?_cons.mp ran with ⟨next, stepped, later⟩
      exact (growsInto_of_step stepped).trans (induction later)

theorem DescendsFrom.run (descends : family.DescendsFrom root)
    (ran : family.run? events = some last) : last.DescendsFrom root := by
  induction events generalizing family with
  | nil =>
      cases ran
      exact descends
  | cons event rest induction =>
      rcases run?_cons.mp ran with ⟨next, stepped, later⟩
      exact induction (descends.step stepped) later

/-- Cancelling any member raises the flag of all, for good. -/
theorem DescendsFrom.raised (descends : family.DescendsFrom root)
    (ran : family.run? events = some last) (cancelled : .cancel index ∈ events) :
    root.flag ∈ last.signals.raised := by
  induction events generalizing family with
  | nil => cases cancelled
  | cons event rest induction =>
      rcases run?_cons.mp ran with ⟨next, stepped, later⟩
      rcases List.mem_cons.mp cancelled with same | afterwards
      · subst same
        rcases Option.bind_eq_some_iff.mp stepped with ⟨member, here, equal⟩
        cases equal
        have flag := descends.flag member (List.mem_of_getElem? here)
        exact (growsInto_of_run later).signals.1 (flag ▸ List.mem_cons_self)
      · exact induction (descends.step stepped) later afterwards

/-! ## Deadlines and checks -/

/-- The deadline of a member is the earliest one on its way from the root. -/
theorem DescendsFrom.isEarliest (descends : family.DescendsFrom root)
    (here : family.members[index]? = some member) :
    IsEarliest member.token.deadline (family.deadlines index) := by
  induction index using Nat.strong_induction_on generalizing member with
  | h index induction =>
      rcases descends.made index member here with
        ⟨rooted, deadline⟩ | ⟨parent, other, named, before, there, deadline⟩
      · rw [deadlines_of_root here rooted, deadline]
        exact .of_asked member.asked
      · rw [deadlines_of_parent here named, deadline]
        exact (induction parent before there).union (.of_asked member.asked)

/-- A check fails for two reasons only: a member was cancelled, or one of the deadlines on the
way from the root has come. -/
theorem DescendsFrom.check_eq_ok (descends : family.DescendsFrom root)
    (here : family.members[index]? = some member) :
    member.token.check family.signals = .ok () ↔
      root.flag ∉ family.signals.raised ∧
        ∀ deadline ∈ family.deadlines index, family.signals.now < deadline := by
  rw [CancelToken.check_eq_ok, descends.flag member (List.mem_of_getElem? here),
    (descends.isEarliest here).forall_lt_iff]

/-- What was made from a member expires no later. -/
theorem DescendsFrom.deadline_le (descends : family.DescendsFrom root) {descendant : Nat}
    {other : FamilyMember} (derived : family.DerivedFrom index descendant)
    (here : family.members[index]? = some member)
    (there : family.members[descendant]? = some other) :
    ∀ deadline ∈ member.token.deadline, ∃ earlier ∈ other.token.deadline, earlier ≤ deadline := by
  intro deadline given
  have asked : deadline ∈ family.deadlines descendant :=
    deadlines_subset derived (((descends.isEarliest here).eq_some_iff deadline).mp given).1
  have earliest := descends.isEarliest there
  cases least : other.token.deadline with
  | none => exact absurd asked (Set.eq_empty_iff_forall_notMem.mp (earliest.eq_none_iff.mp least) _)
  | some earlier => exact ⟨earlier, rfl, ((earliest.eq_some_iff earlier).mp least).2 asked⟩

theorem DescendsFrom.fails_of_derivedFrom (descends : family.DescendsFrom root)
    {descendant : Nat} {other : FamilyMember} (derived : family.DerivedFrom index descendant)
    (here : family.members[index]? = some member)
    (there : family.members[descendant]? = some other)
    (fails : member.token.Fails family.signals) : other.token.Fails family.signals := by
  by_contra passed
  rcases (descends.check_eq_ok there).mp (CancelToken.not_fails_iff.mp passed) with ⟨lowered, early⟩
  refine CancelToken.not_fails_iff.mpr ((descends.check_eq_ok here).mpr ⟨lowered, ?_⟩) fails
  intro deadline asked
  exact early deadline (deadlines_subset derived asked)

/-- Cancellation is final, whatever happens to a family and in which order. A member keeps its
token and its deadline, the earliest one on its way from the root. Its check fails exactly if
the family has been cancelled or one of these deadlines has come, and then it fails from there on,
for all that was made from the member as well. After any member has been cancelled, the check of
every member tells so. -/
theorem cancellation_is_final {signals : Signals} {later : List Event}
    (began : (start root signals).run? events = some early) (went : early.run? later = some last) :
    (∀ index member, early.members[index]? = some member →
      last.members[index]? = some member ∧
      (∀ deadline, member.token.deadline = some deadline ↔
        IsLeast (early.deadlines index) deadline) ∧
      (member.token.deadline = none ↔ early.deadlines index = ∅) ∧
      (member.token.Fails early.signals ↔ root.flag ∈ early.signals.raised ∨
        ∃ deadline ∈ early.deadlines index, deadline ≤ early.signals.now) ∧
      (member.token.Fails early.signals → member.token.Fails last.signals) ∧
      ∀ descendant other, early.DerivedFrom index descendant →
        early.members[descendant]? = some other →
          (∀ deadline ∈ member.token.deadline,
            ∃ earlier ∈ other.token.deadline, earlier ≤ deadline) ∧
          (member.token.Fails early.signals → other.token.Fails early.signals)) ∧
      ∀ index, .cancel index ∈ later → ∀ member ∈ last.members,
        member.token.check last.signals = .error (.cause .cancelled) := by
  have descends : early.DescendsFrom root := (descendsFrom_start root signals).run began
  have grows : early.GrowsInto last := growsInto_of_run went
  constructor
  · intro index member here
    have earliest := descends.isEarliest here
    refine ⟨grows.getElem? here, earliest.eq_some_iff, earliest.eq_none_iff, ?_,
      fun fails => fails.of_before grows.signals, fun descendant other derived there => ?_⟩
    · rw [← not_iff_not, CancelToken.not_fails_iff, descends.check_eq_ok here]
      push Not
      rfl
    · exact ⟨descends.deadline_le derived here there,
        descends.fails_of_derivedFrom derived here there⟩
  · intro index cancelled member inside
    apply CancelToken.check_of_raised
    rw [(descends.run went).flag member inside]
    exact descends.raised went cancelled

/-- A member with ten seconds was asked for twenty more, and these ten have passed. -/
def overdue : TokenFamily where
  signals := { now := 10 }
  members := [
    ⟨{ flag := 7 }, none, none⟩,
    ⟨{ flag := 7, deadline := some 10 }, some 0, some 10⟩,
    ⟨{ flag := 7, deadline := some 10 }, some 1, some 20⟩,
    ⟨{ flag := 7 }, some 0, none⟩]

/-- The overdue member was asked for even more time, and the one without a deadline was
cancelled. -/
def abandoned : TokenFamily where
  signals := { raised := [7], now := 15 }
  members := overdue.members ++ [⟨{ flag := 7, deadline := some 10 }, some 2, some 50⟩]

theorem cancellation_is_final_overdue :
    (start { flag := 7 } {}).run?
        [.derive 0 (.withDeadline 10), .derive 1 (.withTimeout 20), .derive 0 .clone, .pass 10] =
      some overdue ∧
    overdue.run? [.derive 2 (.withDeadline 50), .pass 5, .cancel 3] = some abandoned ∧
    ∃ member, overdue.members[2]? = some member ∧ abandoned.members[2]? = some member ∧
      IsLeast (overdue.deadlines 2) 10 ∧ member.token.Fails overdue.signals ∧
      ∀ member ∈ abandoned.members,
        member.token.check abandoned.signals = .error (.cause .cancelled) := by
  have began : (start { flag := 7 } {}).run?
      [.derive 0 (.withDeadline 10), .derive 1 (.withTimeout 20), .derive 0 .clone, .pass 10] =
        some overdue := rfl
  have went : overdue.run? [.derive 2 (.withDeadline 50), .pass 5, .cancel 3] =
      some abandoned := rfl
  rcases cancellation_is_final began went with ⟨members, cancelled⟩
  rcases members 2 _ rfl with ⟨kept, deadline, _, fails, _⟩
  have least := (deadline 10).mp rfl
  exact ⟨began, went, _, rfl, kept, least, fails.mpr (.inr ⟨10, least.1, Nat.le_refl 10⟩),
    cancelled 3 (by decide)⟩

end TokenFamily

end PageSketch
