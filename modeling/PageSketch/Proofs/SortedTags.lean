import Mathlib.Data.List.Nodup
import Mathlib.Data.List.Sort
import Mathlib.Data.String.Basic
import PageSketch.Proofs.FailureParts
import PageSketch.Sketch.Tags

/-! # Lists of tags

Tags are put in order if there is no empty one and none is repeated. Otherwise all that is wrong
is told at once. Either way, the order in which they are given does not matter. -/

namespace PageSketch

/-! ## The words of a failure -/

namespace TagProblems

variable {problems : TagProblems}

/-- What is told of problems. -/
inductive Worded : TagProblems → String → Prop
  | empty : Worded ⟨true, []⟩ "empty tags are forbidden"
  | repeated {tags : List String} (some : tags ≠ []) :
      Worded ⟨false, tags⟩ ("duplicated tags " ++ Text.quotedList tags)
  | both {tags : List String} (some : tags ≠ []) :
      Worded ⟨true, tags⟩ ("empty tags are forbidden; duplicated tags " ++ Text.quotedList tags)

theorem texts_eq_nil_iff :
    problems.texts = [] ↔ problems.hasEmpty = false ∧ problems.repeated = [] := by
  rcases problems with ⟨_ | _, _ | ⟨tag, rest⟩⟩ <;> simp [texts]

theorem worded_texts (wrong : problems.texts ≠ []) :
    problems.Worded ("; ".intercalate problems.texts) := by
  rcases problems with ⟨_ | _, _ | ⟨tag, rest⟩⟩
  · exact absurd rfl wrong
  · exact .repeated nofun
  · exact .empty
  · exact .both nofun

theorem message_toFailure (problems : TagProblems) :
    problems.toFailure.message =
      "bad configuration: tags: invalid tags: " ++ "; ".intercalate problems.texts := by
  have opening : "bad configuration" ++ ": " ++ "tags" ++ ": " ++ "invalid tags: " =
      "bad configuration: tags: invalid tags: " := by decide +kernel
  rw [← opening, String.append_assoc, toFailure, Failure.message, Failure.message]
  rfl

theorem is_toFailure_iff {kind : Kind} :
    problems.toFailure.is kind = true ↔ kind = .badConfig ∨ kind = .invalidTags := by
  rw [toFailure, Failure.is_classified_iff, Failure.is_cause, Cause.kind, beq_iff_eq, eq_comm,
    @eq_comm _ _ kind]

end TagProblems

namespace Tags

variable {tag : String} {tags others sorted : List String}

/-! ## Sorting -/

theorem perm_sort (tags : List String) : (sort tags).Perm tags := List.mergeSort_perm tags _

theorem pairwise_sort (tags : List String) : (sort tags).Pairwise (· ≤ ·) :=
  List.pairwise_mergeSort' (· ≤ ·) tags

/-- There is only one way to put tags in order. -/
theorem sort_eq (same : sorted.Perm tags) (ordered : sorted.Pairwise (· ≤ ·)) :
    sort tags = sorted :=
  ((perm_sort tags).trans same.symm).eq_of_pairwise (fun _ _ _ _ => le_antisymm)
    (pairwise_sort tags) ordered

theorem sort_eq_of_perm (same : others.Perm tags) : sort others = sort tags :=
  sort_eq ((perm_sort tags).trans same.symm) (pairwise_sort tags)

/-! ## Repeated tags -/

theorem pairwise_eraseDups {tags : List String} (ordered : tags.Pairwise (· ≤ ·)) :
    tags.eraseDups.Pairwise (· < ·) := by
  match tags with
  | [] => exact .nil
  | tag :: rest =>
      have parts := List.pairwise_cons.mp ordered
      rw [List.eraseDups_cons, List.pairwise_cons]
      refine ⟨fun other member => ?_, pairwise_eraseDups (parts.2.filter _)⟩
      have kept := List.mem_filter.mp (List.mem_eraseDups.mp member)
      have different : other ≠ tag := by simpa using kept.2
      exact lt_of_le_of_ne (parts.1 other kept.1) different.symm
termination_by tags.length
decreasing_by exact Nat.lt_succ_of_le (List.length_filter_le _ rest)

theorem mem_repeated : tag ∈ repeated tags ↔ tag ≠ "" ∧ 2 ≤ tags.count tag := by
  rw [repeated, List.mem_filter, List.mem_eraseDups, decide_eq_true_eq]
  refine and_iff_right_of_imp fun both => ?_
  exact List.count_pos_iff.mp (Nat.lt_of_succ_lt both.2)

/-- Of sorted tags, the repeated ones are told in order and once each. -/
theorem pairwise_repeated (ordered : tags.Pairwise (· ≤ ·)) :
    (repeated tags).Pairwise (· < ·) :=
  (pairwise_eraseDups ordered).filter _

/-! ## Checking -/

/-- What is wrong with tags. -/
def problems (tags : List String) : TagProblems := ⟨(sort tags).contains "", repeated (sort tags)⟩

theorem check_eq (tags : List String) :
    check tags = if (problems tags).texts = [] then .ok (sort tags) else .error (problems tags) := by
  rw [check]
  exact ite_congr (propext List.isEmpty_iff) (fun _ => rfl) fun _ => rfl

theorem hasEmpty_problems : (problems tags).hasEmpty = true ↔ "" ∈ tags :=
  List.contains_iff_mem.trans (perm_sort tags).mem_iff

theorem mem_repeated_problems :
    tag ∈ (problems tags).repeated ↔ tag ≠ "" ∧ 2 ≤ tags.count tag := by
  rw [problems, mem_repeated, (perm_sort tags).count_eq]

/-- Nothing is wrong with tags if none is empty and all are different. -/
theorem texts_problems_eq_nil_iff : (problems tags).texts = [] ↔ "" ∉ tags ∧ tags.Nodup := by
  rw [TagProblems.texts_eq_nil_iff, ← Bool.not_eq_true, hasEmpty_problems]
  refine and_congr_right fun filled => ?_
  rw [List.eq_nil_iff_forall_not_mem, List.nodup_iff_count_le_one]
  refine forall_congr' fun tag => ?_
  rw [mem_repeated_problems, not_and, Nat.not_le, Nat.lt_succ_iff]
  constructor
  · intro once
    -- Repetitions of the empty tag are not told, but here it does not occur.
    by_cases empty : tag = ""
    · subst empty
      rw [List.count_eq_zero.mpr filled]
      exact Nat.zero_le 1
    · exact once empty
  · exact fun once _ => once

/-- Tags without an empty one and without repetitions are sorted. Otherwise there is one failure,
which tells the repeated tags in order and once each, and whether there is an empty one. No other
order of the tags changes what comes out. -/
theorem check_outcome (tags : List String) :
    ("" ∉ tags ∧ tags.Nodup →
        ∃ sorted, check tags = .ok sorted ∧ sorted.Perm tags ∧ sorted.Pairwise (· < ·)) ∧
      (¬("" ∉ tags ∧ tags.Nodup) →
        ∃ problems, check tags = .error problems ∧ (problems.hasEmpty = true ↔ "" ∈ tags) ∧
          problems.repeated.Pairwise (· < ·) ∧
          (∀ tag, tag ∈ problems.repeated ↔ tag ≠ "" ∧ 2 ≤ tags.count tag) ∧
          (∀ kind, problems.toFailure.is kind = true ↔ kind = .badConfig ∨ kind = .invalidTags) ∧
          ∃ words, problems.Worded words ∧
            problems.toFailure.message = "bad configuration: tags: invalid tags: " ++ words) ∧
      ∀ others : List String, others.Perm tags → check others = check tags := by
  refine ⟨fun fine => ?_, fun wrong => ?_, fun others same => ?_⟩
  · refine ⟨sort tags, ?_, perm_sort tags, ?_⟩
    · rw [check_eq, if_pos (texts_problems_eq_nil_iff.mpr fine)]
    · have distinct := (perm_sort tags).nodup_iff.mpr fine.2
      exact ((pairwise_sort tags).and distinct).imp fun both => lt_of_le_of_ne both.1 both.2
  · have told := mt texts_problems_eq_nil_iff.mp wrong
    refine ⟨problems tags, ?_, hasEmpty_problems, pairwise_repeated (pairwise_sort tags),
      fun tag => mem_repeated_problems, fun kind => TagProblems.is_toFailure_iff, _,
      TagProblems.worded_texts told, TagProblems.message_toFailure _⟩
    rw [check_eq, if_neg told]
  · rw [check_eq, check_eq, problems, problems, sort_eq_of_perm same]

/-- Three tags that differ, two of them only by case. -/
def labels : List String := ["b", "a", "A"]

/-- One tag is given twice, one three times, and one is empty. -/
def muddle : List String := ["x", "a", "x", "b", "a", "a", ""]

theorem check_outcome_muddle :
    ("" ∉ labels ∧ labels.Nodup) ∧ check labels = .ok ["A", "a", "b"] ∧
      ["A", "a", "b"].Pairwise (· < ·) ∧ ¬("" ∉ muddle ∧ muddle.Nodup) ∧
      ∃ problems, check muddle = .error problems ∧ check muddle.reverse = .error problems ∧
        problems.toFailure.message = "bad configuration: tags: invalid tags: " ++
          ("empty tags are forbidden; duplicated tags " ++ Text.quotedList ["a", "x"]) := by
  have fine : "" ∉ labels ∧ labels.Nodup := by decide +kernel
  have wrong : ¬("" ∉ muddle ∧ muddle.Nodup) := by decide +kernel
  have passed : check labels = .ok ["A", "a", "b"] := by
    have arranged : sort labels = ["A", "a", "b"] :=
      sort_eq (by decide +kernel) (by decide +kernel)
    rw [check_eq, if_pos (texts_problems_eq_nil_iff.mpr fine), arranged]
  have found : problems muddle = ⟨true, ["a", "x"]⟩ := by
    have arranged : sort muddle = ["", "a", "a", "a", "b", "x", "x"] :=
      sort_eq (by decide +kernel) (by decide +kernel)
    rw [problems, arranged]
    decide +kernel
  have failed : check muddle = .error ⟨true, ["a", "x"]⟩ := by
    rw [check_eq, if_neg (mt texts_problems_eq_nil_iff.mp wrong), found]
  rcases (check_outcome labels).1 fine with ⟨sorted, checked, _, increasing⟩
  cases passed.symm.trans checked
  rcases check_outcome muddle with ⟨_, refused, unordered⟩
  rcases refused wrong with ⟨problems, checked, _, _, _, _, words, worded, message⟩
  cases failed.symm.trans checked
  refine ⟨fine, passed, increasing, wrong, _, failed, ?_, ?_⟩
  · rw [unordered muddle.reverse muddle.reverse_perm, failed]
  · cases worded
    exact message

end Tags

end PageSketch
