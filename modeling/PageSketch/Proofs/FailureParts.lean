import PageSketch.Proofs.Outcomes

/-! # The parts of failures

Asking for a kind looks at every part of a failure, however deeply it is nested, while the
kind of a failure is that of a single part. What is collected from several failures counts
as everything that one of them counts as. -/

namespace PageSketch

namespace Failure

/-- A failure is found within another one, at any depth. -/
inductive PartOf (part : Failure) : Failure → Prop
  | whole : PartOf part part
  | many {failure : Failure} {failures : List Failure} (member : failure ∈ failures)
      (inside : PartOf part failure) : PartOf part (.many failures)
  | within {place : String} {failure : Failure} (inside : PartOf part failure) :
      PartOf part (.within place failure)
  | classified {kind : Kind} {place : String} {failure : Failure}
      (inside : PartOf part failure) : PartOf part (.classified kind place failure)

/-- The failure counts as one of a kind by itself, whatever it holds. -/
inductive Shows (kind : Kind) : Failure → Prop
  | cause {leaf : Cause} (same : leaf.kind = kind) : Shows kind (.cause leaf)
  | many {failures : List Failure} (several : kind = .multiple) : Shows kind (.many failures)
  | classified {place : String} {failure : Failure} : Shows kind (.classified kind place failure)

variable {kind : Kind} {part whole failure : Failure}

theorem is_classified_iff {given : Kind} {place : String} :
    (Failure.classified given place failure).is kind = true ↔
      given = kind ∨ failure.is kind = true := by
  rw [Failure.is, Bool.or_eq_true, beq_iff_eq]

theorem Shows.is (shows : Shows kind failure) : failure.is kind = true := by
  cases shows with
  | cause same => rw [is_cause, same, beq_self_eq_true]
  | many several => exact is_many_iff.mpr (.inl several)
  | classified => exact is_classified_iff.mpr (.inl rfl)

/-- Whatever holds a part counts as what the part does. -/
theorem PartOf.is (inside : PartOf part whole) (counted : part.is kind = true) :
    whole.is kind = true := by
  induction inside with
  | whole => exact counted
  | many member _ induction => exact is_many_iff.mpr (.inr ⟨_, member, induction⟩)
  | within _ induction => rwa [is_within]
  | classified _ induction => exact is_classified_iff.mpr (.inr induction)

/-- A failure counts as one of a kind because some part of it shows that. -/
theorem exists_shows {failure : Failure} (counted : failure.is kind = true) :
    ∃ part, PartOf part failure ∧ Shows kind part := by
  match failure with
  | .cause leaf =>
      rw [is_cause, beq_iff_eq] at counted
      exact ⟨.cause leaf, .whole, .cause counted⟩
  | .many failures =>
      rcases is_many_iff.mp counted with several | ⟨inner, member, counted⟩
      · exact ⟨.many failures, .whole, .many several⟩
      · rcases exists_shows counted with ⟨part, inside, shows⟩
        exact ⟨part, .many member inside, shows⟩
  | .within place inner =>
      rw [is_within] at counted
      rcases exists_shows counted with ⟨part, inside, shows⟩
      exact ⟨part, .within inside, shows⟩
  | .classified given place inner =>
      rcases is_classified_iff.mp counted with same | counted
      · subst same
        exact ⟨.classified given place inner, .whole, .classified⟩
      · rcases exists_shows counted with ⟨part, inside, shows⟩
        exact ⟨part, .classified inside, shows⟩
termination_by sizeOf failure

theorem is_iff_shows :
    failure.is kind = true ↔ ∃ part, PartOf part failure ∧ Shows kind part := by
  constructor
  · exact exists_shows
  · intro found
    rcases found with ⟨part, inside, shows⟩
    exact inside.is shows.is

/-- A failure counts as one of a kind exactly if a cause in it is of that kind, if something
in it is given that kind, or if failures are collected in it and that is what is asked. -/
theorem is_iff_parts :
    failure.is kind = true ↔
      (∃ leaf, PartOf (.cause leaf) failure ∧ leaf.kind = kind) ∨
        (∃ place inner, PartOf (.classified kind place inner) failure) ∨
          kind = .multiple ∧ ∃ failures, PartOf (.many failures) failure := by
  rw [is_iff_shows]
  constructor
  · intro found
    rcases found with ⟨part, inside, shows⟩
    cases shows with
    | cause same => exact .inl ⟨_, inside, same⟩
    | many several => exact .inr (.inr ⟨several, _, inside⟩)
    | classified => exact .inr (.inl ⟨_, _, inside⟩)
  · intro found
    rcases found with ⟨leaf, inside, same⟩ | ⟨place, inner, inside⟩ | ⟨several, failures, inside⟩
    · exact ⟨_, inside, .cause same⟩
    · exact ⟨_, inside, .classified⟩
    · exact ⟨_, inside, .many several⟩

/-- The kind of a failure is that of a part: the outermost one that is not only a place. -/
theorem exists_outermost (failure : Failure) :
    ∃ part, PartOf part failure ∧ Shows failure.kind part := by
  match failure with
  | .cause leaf => exact ⟨.cause leaf, .whole, .cause rfl⟩
  | .many failures => exact ⟨.many failures, .whole, .many rfl⟩
  | .within place inner =>
      rcases exists_outermost inner with ⟨part, inside, shows⟩
      exact ⟨part, .within inside, shows⟩
  | .classified given place inner =>
      exact ⟨.classified given place inner, .whole, .classified⟩
termination_by sizeOf failure

theorem exists_checkAll_eq_error {failures : List Failure} (some : failures ≠ []) :
    ∃ collected, checkAll failures = .error collected := by
  cases checked : checkAll failures with
  | ok _ => exact absurd (checkAll_eq_ok.mp checked) some
  | error collected => exact ⟨collected, rfl⟩

/-- The kinds of a failure are those that its parts show, its own kind among them. Places
change none of them, and collecting adds only that there are several failures. -/
theorem kinds_of_parts (failure : Failure) (place : String) (failures : List Failure) :
    (∀ kind, failure.is kind = true ↔
      (∃ leaf, PartOf (.cause leaf) failure ∧ leaf.kind = kind) ∨
        (∃ place inner, PartOf (.classified kind place inner) failure) ∨
          kind = .multiple ∧ ∃ failures, PartOf (.many failures) failure) ∧
      failure.is failure.kind = true ∧
      (Failure.within place failure).kind = failure.kind ∧
      (∀ kind, (Failure.within place failure).is kind = failure.is kind) ∧
      (checkAll failures = .ok () ↔ failures = []) ∧
      (failures ≠ [] → ∃ collected, checkAll failures = .error collected ∧
        ∀ kind, collected.is kind = true ↔
          (∃ failure ∈ failures, failure.is kind = true) ∨
            kind = .multiple ∧ 2 ≤ failures.length) := by
  refine ⟨fun kind => is_iff_parts, ?_, rfl, fun kind => is_within kind place failure,
    checkAll_eq_ok, ?_⟩
  · rcases exists_outermost failure with ⟨part, inside, shows⟩
    exact inside.is shows.is
  · intro some
    rcases exists_checkAll_eq_error some with ⟨collected, failed⟩
    exact ⟨collected, failed, is_of_checkAll failed⟩

/-- A reference that is refused, and two files of which none could be read. -/
def refusals : List Failure :=
  [.classified .badConfig "node \"total\"" (.cause (.featureUnavailable "width")),
    .many [.within "pages.json" (.cause .io), .within "sketch.json" (.cause .json)]]

theorem kinds_of_parts_refusals :
    refusals ≠ [] ∧ ∃ collected, checkAll refusals = .error collected ∧
      ∀ kind, collected.is kind = true ↔
        kind ∈ [Kind.badConfig, .featureUnavailable, .io, .json, .multiple] := by
  have some : refusals ≠ [] := nofun
  rcases kinds_of_parts (.cause .io) "" refusals with ⟨_, _, _, _, _, collects⟩
  rcases collects some with ⟨collected, failed, kinds⟩
  refine ⟨some, collected, failed, fun kind => ?_⟩
  rw [kinds kind]
  cases kind <;> decide +kernel

end Failure

end PageSketch
