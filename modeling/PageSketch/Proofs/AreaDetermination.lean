import PageSketch.Proofs.AreaSources
import PageSketch.Scalar.Exact

/-! # Which areas are determined

Corners lie on sides of both axes, and an extent makes candidates of the places on the
opposite side. An axis comes out determined if it has one place on either side and no extent,
or one place and an extent. Whatever else is given, each side that is left without a
candidate or with several is told for itself. -/

namespace PageSketch

/-! ## Messages -/

/-- A text has another one as a part. -/
def Text.Mentions (text part : String) : Prop := part.toList <:+: text.toList

namespace Text

theorem mentions_self (text : String) : Mentions text text := List.infix_refl _

theorem Mentions.append_right {text part : String} (mentions : Mentions text part)
    (before : String) : Mentions (before ++ text) part := by
  rw [Mentions, String.toList_append]
  exact List.IsInfix.trans mentions (List.suffix_append _ _).isInfix

theorem Mentions.append_left {text part : String} (mentions : Mentions text part)
    (after : String) : Mentions (text ++ after) part := by
  rw [Mentions, String.toList_append]
  exact List.IsInfix.trans mentions (List.prefix_append _ _).isInfix

theorem mentions_intercalate {separator part : String} {texts : List String}
    (member : part ∈ texts) : Mentions (separator.intercalate texts) part := by
  induction texts with
  | nil => cases member
  | cons first rest induction =>
      cases rest with
      | nil =>
          rw [List.mem_singleton.mp member, String.intercalate_singleton]
          exact mentions_self first
      | cons second others =>
          rw [String.intercalate_cons_cons]
          rcases List.mem_cons.mp member with rfl | member
          · exact ((mentions_self part).append_left _).append_left _
          · exact (induction member).append_right _

theorem mentions_quotedList {text : String} {texts : List String} (member : text ∈ texts) :
    Mentions (quotedList texts) (quoted text) := by
  have listed : quoted text ∈ texts.map quoted := List.mem_map_of_mem member
  exact ((mentions_intercalate listed).append_right _).append_left _

end Text

namespace Failure

/-- The independent failures of which a failure consists. -/
def collected : Failure → List Failure
  | .many failures => failures
  | failure => [failure]

theorem message_cause (leaf : Cause) : (Failure.cause leaf).message = leaf.message := by
  rw [message]

theorem collected_of_checkAll {failures : List Failure} {failure : Failure}
    (failed : checkAll failures = .error failure)
    (single : ∀ part ∈ failures, part.collected = [part]) : failure.collected = failures := by
  match failures with
  | [] => cases failed
  | [only] =>
      have equal : only = failure := by simpa [checkAll, combine] using failed
      exact equal ▸ single only List.mem_cons_self
  | first :: second :: rest =>
      cases failed
      rfl

end Failure

/-! ## Counting -/

namespace AreaSpec

variable {α : Type} {spec : AreaSpec α}

/-- How many candidates a side has. -/
def candidateCount (spec : AreaSpec α) (side : Side) : Nat :=
  (spec.given side).length +
    if (spec.extent side.axis).isSome then (spec.given side.opposite).length else 0

/-- Without an extent, both sides of the axis are given by one place each. With an extent,
one place fixes both of them. -/
def Determined (spec : AreaSpec α) (axis : Axis) : Prop :=
  match spec.extent axis with
  | none => (spec.given axis.low).length = 1 ∧ (spec.given axis.high).length = 1
  | some _ => (spec.given axis.low).length + (spec.given axis.high).length = 1

theorem determined_iff (axis : Axis) :
    spec.Determined axis ↔
      spec.candidateCount axis.low = 1 ∧ spec.candidateCount axis.high = 1 := by
  rw [Determined, candidateCount, candidateCount, Axis.axis_low, Axis.axis_high,
    Axis.opposite_low, Axis.opposite_high]
  cases spec.extent axis with
  | none => simp
  | some _ =>
      simp only [Option.isSome_some, if_true]
      omega

theorem forall_determined_iff :
    (∀ axis, spec.Determined axis) ↔ ∀ side, spec.candidateCount side = 1 := by
  simp only [determined_iff]
  constructor
  · intro both side
    cases side with
    | top => exact (both .vertical).1
    | right => exact (both .horizontal).2
    | bottom => exact (both .vertical).2
    | left => exact (both .horizontal).1
  · intro each axis
    exact ⟨each _, each _⟩

variable [Scalar α]

/-- What is told about a side. -/
def problem? (spec : AreaSpec α) (side : Side) : Option EdgeProblem :=
  if spec.candidateCount side = 0 then some (.missing side)
  else if spec.candidateCount side = 1 then none
  else some (.conflicting side ((spec.candidates side).map Anchor.display))

/-- What is told about all sides, each for itself. -/
def sideProblems (spec : AreaSpec α) : List EdgeProblem :=
  [Side.top, .right, .bottom, .left].filterMap spec.problem?

theorem mem_sideProblems {problem : EdgeProblem} :
    problem ∈ spec.sideProblems ↔ ∃ side, spec.problem? side = some problem := by
  rw [sideProblems, List.mem_filterMap]
  constructor
  · rintro ⟨side, _, told⟩
    exact ⟨side, told⟩
  · rintro ⟨side, told⟩
    exact ⟨side, side.mem_all, told⟩

theorem missing_mem_sideProblems {side : Side} :
    .missing side ∈ spec.sideProblems ↔ spec.candidateCount side = 0 := by
  rw [mem_sideProblems]
  constructor
  · rintro ⟨other, told⟩
    rw [problem?] at told
    split at told
    · next nothing =>
        cases told
        exact nothing
    · split at told <;> cases told
  · intro nothing
    exact ⟨side, if_pos nothing⟩

theorem conflicting_mem_sideProblems {side : Side} {texts : List String} :
    .conflicting side texts ∈ spec.sideProblems ↔
      2 ≤ spec.candidateCount side ∧ texts = (spec.candidates side).map Anchor.display := by
  rw [mem_sideProblems]
  constructor
  · rintro ⟨other, told⟩
    rw [problem?] at told
    split at told
    · cases told
    · next some =>
        split at told
        · cases told
        · next several =>
            cases told
            exact ⟨by omega, rfl⟩
  · rintro ⟨several, rfl⟩
    refine ⟨side, ?_⟩
    rw [problem?, if_neg (by omega), if_neg (by omega)]

/-- If all parts make sense, no candidate is lost. -/
theorem length_candidates (converts : spec.Converts) (side : Side) :
    (spec.candidates side).length = spec.candidateCount side := by
  have here := (converts.sources side).length_eq
  have there := (converts.sources side.opposite).length_eq
  rw [candidates, candidateCount, List.length_append, List.length_map, here, there]
  congr 1
  cases given : spec.extent side.axis with
  | none => simp [AreaSpec.extent?, given]
  | some written =>
      rcases converts.extent? given with ⟨extent, _, known⟩
      simp [known]

theorem ofOutcome?_anchor (converts : spec.Converts) {parts : AreaParts α}
    (read : spec.parts = .ok parts) (side : Side) :
    Failure.ofOutcome? ((parts.anchor side).mapError EdgeProblem.toFailure) =
      (spec.problem? side).map EdgeProblem.toFailure := by
  rw [AreaParts.anchor, anchors_of_parts read, problem?, ← length_candidates converts]
  cases spec.candidates side with
  | nil => rfl
  | cons first rest =>
      cases rest with
      | nil => rfl
      | cons second others => simp [Except.mapError, Failure.ofOutcome?]

end AreaSpec

namespace EdgeProblem

theorem collected_toFailure (problem : EdgeProblem) :
    problem.toFailure.collected = [problem.toFailure] := by
  cases problem <;> rfl

theorem is_incompleteConfig {problem : EdgeProblem} :
    problem.toFailure.is .incompleteConfig = true ↔ ∃ side, problem = .missing side := by
  cases problem <;> simp [toFailure, Cause.kind]

theorem is_badConfig {problem : EdgeProblem} :
    problem.toFailure.is .badConfig = true ↔ ∃ side texts, problem = .conflicting side texts := by
  cases problem <;> simp [toFailure, Cause.kind]

theorem toFailure_ne_edgesMissing (problem : EdgeProblem) :
    problem.toFailure ≠ AnchoredRect.edgesMissing := by
  intro equal
  cases problem with
  | missing side =>
      have texts := Cause.incompleteConfig.inj (Failure.cause.inj equal)
      have initials := congrArg (fun text => text.toList.head?) texts
      simp at initials
  | conflicting side anchors =>
      have kinds := congrArg (Failure.is .badConfig) equal
      simp [toFailure, AnchoredRect.edgesMissing, Cause.kind] at kinds

theorem message_conflicting (side : Side) (texts : List String) :
    (conflicting side texts).toFailure.message =
      "bad configuration: " ++ ("conflicting position sources for " ++ Text.quoted side.name
        ++ ": " ++ Text.quotedList texts) :=
  (Failure.message_cause _).trans rfl

end EdgeProblem

/-! ## Compilation -/

namespace AnchoredRect

variable {α : Type} [Scalar α] {spec : AreaSpec α} {failure : Failure}

theorem ofSpec_eq_error (converts : spec.Converts) :
    ofSpec spec = .error failure ↔
      Failure.checkAll (spec.sideProblems.map EdgeProblem.toFailure) = .error failure := by
  rcases AreaSpec.exists_parts_iff.mpr converts with ⟨parts, read⟩
  have failures : anchorFailures parts = spec.sideProblems.map EdgeProblem.toFailure := by
    rw [AreaSpec.sideProblems, List.map_filterMap]
    exact List.filterMap_congr fun side _ => AreaSpec.ofOutcome?_anchor converts read side
  rw [ofSpec_of_parts read, ofParts_eq_error, failures]

theorem exists_ofSpec_iff (converts : spec.Converts) :
    (∃ rect, ofSpec spec = .ok rect) ↔ ∀ side, spec.candidateCount side = 1 := by
  constructor
  · rintro ⟨rect, compiled⟩ side
    have only := (ofSpec_eq_ok.mp compiled).2 side
    rw [← AreaSpec.length_candidates converts, only, List.length_singleton]
  · intro single
    have known : ∀ side, ∃ anchor, spec.candidates side = [anchor] := by
      intro side
      apply List.length_eq_one_iff.mp
      rw [AreaSpec.length_candidates converts, single side]
    choose anchor only using known
    refine ⟨⟨anchor .top, anchor .right, anchor .bottom, anchor .left⟩,
      ofSpec_eq_ok.mpr ⟨converts, fun side => ?_⟩⟩
    cases side <;> exact only _

theorem is_of_ofSpec (converts : spec.Converts) (failed : ofSpec spec = .error failure)
    {kind : Kind} (different : kind ≠ .multiple) :
    failure.is kind = true ↔ ∃ problem ∈ spec.sideProblems, problem.toFailure.is kind = true := by
  rw [Failure.is_of_checkAll ((ofSpec_eq_error converts).mp failed)]
  simp [different]

theorem collected_of_ofSpec (converts : spec.Converts) (failed : ofSpec spec = .error failure) :
    failure.collected = spec.sideProblems.map EdgeProblem.toFailure := by
  apply Failure.collected_of_checkAll ((ofSpec_eq_error converts).mp failed)
  intro part member
  rcases List.mem_map.mp member with ⟨problem, _, rfl⟩
  exact problem.collected_toFailure

/-- An area whose parts make sense is compiled exactly if both axes are determined. Otherwise
it is told for every side, in order, whether it has no candidate or several, and all of
these are described. -/
theorem compiles_iff_determined (converts : spec.Converts) :
    ((∃ rect, ofSpec spec = .ok rect) ↔ ∀ axis, spec.Determined axis) ∧
      ∀ failure, ofSpec spec = .error failure →
        (failure.is .incompleteConfig = true ↔ ∃ side, spec.candidateCount side = 0) ∧
        (failure.is .badConfig = true ↔ ∃ side, 2 ≤ spec.candidateCount side) ∧
        failure.collected = spec.sideProblems.map EdgeProblem.toFailure ∧
        (∀ side, 2 ≤ spec.candidateCount side →
          (spec.candidates side).length = spec.candidateCount side ∧
          ∃ part ∈ failure.collected,
            Text.Mentions part.message
              ("conflicting position sources for " ++ Text.quoted side.name) ∧
            ∀ candidate ∈ spec.candidates side,
              Text.Mentions part.message (Text.quoted candidate.display)) ∧
        edgesMissing ∉ failure.collected := by
  refine ⟨?_, fun failure failed => ?_⟩
  · rw [AreaSpec.forall_determined_iff]
    exact exists_ofSpec_iff converts
  have collected := collected_of_ofSpec converts failed
  refine ⟨?_, ?_, collected, fun side several => ⟨?_, ?_⟩, ?_⟩
  · rw [is_of_ofSpec converts failed (by decide)]
    simp only [EdgeProblem.is_incompleteConfig]
    constructor
    · rintro ⟨_, member, side, rfl⟩
      exact ⟨side, AreaSpec.missing_mem_sideProblems.mp member⟩
    · rintro ⟨side, none⟩
      exact ⟨_, AreaSpec.missing_mem_sideProblems.mpr none, side, rfl⟩
  · rw [is_of_ofSpec converts failed (by decide)]
    simp only [EdgeProblem.is_badConfig]
    constructor
    · rintro ⟨_, member, side, texts, rfl⟩
      exact ⟨side, (AreaSpec.conflicting_mem_sideProblems.mp member).1⟩
    · rintro ⟨side, several⟩
      exact ⟨_, AreaSpec.conflicting_mem_sideProblems.mpr ⟨several, rfl⟩, side, _, rfl⟩
  · exact AreaSpec.length_candidates converts side
  · have member := AreaSpec.conflicting_mem_sideProblems.mpr ⟨several, rfl⟩
    refine ⟨_, collected ▸ List.mem_map_of_mem member, ?_, fun candidate listed => ?_⟩
    · rw [EdgeProblem.message_conflicting]
      exact (((Text.mentions_self _).append_left _).append_left _).append_right _
    · rw [EdgeProblem.message_conflicting]
      have described : candidate.display ∈ (spec.candidates side).map Anchor.display :=
        List.mem_map_of_mem listed
      exact ((Text.mentions_quotedList described).append_right _).append_right _
  · rw [collected, List.mem_map]
    rintro ⟨problem, _, equal⟩
    exact problem.toFailure_ne_edgesMissing equal

end AnchoredRect

/-! ## An area with too many places and too few -/

namespace AreaSpec

/-- Top and bottom are given twice, as each is also known from the other, and nothing is
known of the left side. -/
def overfull : AreaSpec Rat where
  top := some (.absolute (.ofUnit .pt 10))
  bottom := some (.absolute (.ofUnit .pt 30))
  height := some (.ofUnit .pt 20)
  right := some (.absolute (.ofUnit .pt 40))

theorem converts_overfull : overfull.Converts where
  edges side written given := by
    cases side <;> cases given <;> exact ⟨_, rfl⟩
  corners corner written given := by
    cases corner <;> cases given
  extents axis written given := by
    cases axis <;> cases given
    exact ⟨_, rfl⟩

theorem sideProblems_overfull :
    overfull.sideProblems =
      [.conflicting .top ["top (distance 10pt)", "-20pt from bottom (distance 30pt)"],
        .conflicting .bottom ["bottom (distance 30pt)", "20pt from top (distance 10pt)"],
        .missing .left] := by
  decide +kernel

end AreaSpec

namespace AnchoredRect

theorem compiles_iff_determined_overfull :
    AreaSpec.overfull.Converts ∧
      ∃ failure, ofSpec AreaSpec.overfull = .error failure ∧
        failure.is .incompleteConfig = true ∧ failure.is .badConfig = true ∧
        failure.collected = AreaSpec.overfull.sideProblems.map EdgeProblem.toFailure ∧
        AreaSpec.overfull.sideProblems.length = 3 := by
  have both := compiles_iff_determined AreaSpec.converts_overfull
  cases compiled : ofSpec AreaSpec.overfull with
  | ok rect =>
      have determined := both.1.mp ⟨rect, compiled⟩ .vertical
      cases determined
  | error failure =>
      rcases both.2 failure compiled with ⟨incomplete, bad, collected, _⟩
      have noLeft : ∃ side, AreaSpec.overfull.candidateCount side = 0 := ⟨.left, by decide⟩
      have twoTops : ∃ side, 2 ≤ AreaSpec.overfull.candidateCount side := ⟨.top, by decide⟩
      refine ⟨AreaSpec.converts_overfull, failure, rfl, incomplete.mpr noLeft,
        bad.mpr twoTops, collected, ?_⟩
      rw [AreaSpec.sideProblems_overfull]
      rfl

end AnchoredRect

end PageSketch
