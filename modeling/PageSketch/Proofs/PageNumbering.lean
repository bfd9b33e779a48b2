import PageSketch.Content.Loading
import PageSketch.Proofs.PageSelection
import PageSketch.Scalar.Binary

/-! # The numbering of pages in files

A file whose pages make sense on their own is loaded exactly if their numbers are one to the
number of pages, in whatever order they are written. Otherwise the first page that is out of
place, in the order of numbers, shows that a number is missing or given twice. -/

namespace PageSketch

namespace Page

variable {α : Type} {pages : List (Page α)}

def numbers (pages : List (Page α)) : List Nat := pages.map fun page => page.number.val

/-! ## The first page out of place -/

theorem numberingProblem?_eq_none {next : Nat} :
    numberingProblem? next pages = none ↔ numbers pages = List.range' next pages.length := by
  induction pages generalizing next with
  | nil => simp [numberingProblem?, numbers]
  | cons page rest induction =>
      rw [numberingProblem?, numbers, List.map_cons, List.length_cons, List.range'_succ,
        List.cons.injEq]
      by_cases here : page.number.val = next
      · rw [if_pos here, induction, numbers]
        exact ⟨fun others => ⟨here, others⟩, And.right⟩
      · rw [if_neg here]
        split <;> simp [here]

/-- All pages before the one that is out of place are numbered as they should be. -/
theorem numberingProblem?_eq_some {next : Nat} {problem : ContentProblem}
    (found : numberingProblem? next pages = some problem) :
    ∃ before page after, pages = before ++ page :: after ∧
      numbers before = List.range' next before.length ∧
      (page.number.val < next + before.length ∧ problem = .duplicateNumber page.number ∨
        next + before.length < page.number.val ∧
          problem = .missingNumber (next + before.length) page.number) := by
  induction pages generalizing next with
  | nil => cases found
  | cons page rest induction =>
      rw [numberingProblem?] at found
      split at found
      · next here =>
          rcases induction found with ⟨before, other, after, rfl, numbered, misplaced⟩
          refine ⟨page :: before, other, after, rfl, ?_, ?_⟩
          · rw [numbers, List.map_cons, List.length_cons, List.range'_succ, here, ← numbered,
              numbers]
          · rw [List.length_cons, Nat.add_comm before.length 1, ← Nat.add_assoc]
            exact misplaced
      · next away =>
          refine ⟨[], page, rest, rfl, rfl, ?_⟩
          rw [List.length_nil, Nat.add_zero]
          split at found
          · next low => exact .inl ⟨low, (Option.some.inj found).symm⟩
          · next high => exact .inr ⟨by omega, (Option.some.inj found).symm⟩

theorem numberingProblem?_congr {others : List (Page α)} {next : Nat}
    (same : numbers pages = numbers others) :
    numberingProblem? next pages = numberingProblem? next others := by
  induction pages generalizing others next with
  | nil =>
      cases others with
      | nil => rfl
      | cons other rest => cases same
  | cons page rest induction =>
      cases others with
      | nil => cases same
      | cons other rest' =>
          simp only [numbers, List.map_cons, List.cons.injEq] at same
          rw [numberingProblem?, numberingProblem?, same.1, induction same.2]

/-! ## Orders in which pages are written -/

theorem numbers_sortByNumber_eq_of_perm {others : List (Page α)} (same : pages.Perm others) :
    numbers (sortByNumber pages) = numbers (sortByNumber others) := by
  have ascending (pages : List (Page α)) : (numbers (sortByNumber pages)).Pairwise (· ≤ ·) :=
    List.pairwise_map.mpr (pairwise_sortByNumber pages)
  have sorted : (sortByNumber pages).Perm (sortByNumber others) :=
    (sortByNumber_perm pages).trans (same.trans (sortByNumber_perm others).symm)
  exact List.Perm.eq_of_pairwise' (ascending pages) (ascending others) (sorted.map _)

/-- If no number is given twice, then sorting forgets the order in which pages are written. -/
theorem sortByNumber_eq_of_perm {others : List (Page α)} (distinct : (numbers pages).Nodup)
    (same : pages.Perm others) : sortByNumber pages = sortByNumber others := by
  have sorted : (sortByNumber pages).Perm (sortByNumber others) :=
    (sortByNumber_perm pages).trans (same.trans (sortByNumber_perm others).symm)
  refine List.Perm.eq_of_pairwise (fun first second here there low high => ?_)
    (pairwise_sortByNumber pages) (pairwise_sortByNumber others) sorted
  have here := (sortByNumber_perm pages).mem_iff.mp here
  have there := same.mem_iff.mpr ((sortByNumber_perm others).mem_iff.mp there)
  exact List.inj_on_of_nodup_map distinct here there (Nat.le_antisymm low high)

/-! ## What the problem tells -/

/-- What a problem tells of the numbers of pages is true. -/
inductive Diagnoses (numbers : List Nat) : ContentProblem → Prop
  | missing {missing number : Nat} (below : ∀ lower, 1 ≤ lower → lower < missing →
        numbers.count lower = 1) (absent : missing ∉ numbers) (larger : missing < number)
      (present : number ∈ numbers) : Diagnoses numbers (.missingNumber missing number)
  | duplicate {number : Nat} (twice : 2 ≤ numbers.count number)
      (below : ∀ lower, 1 ≤ lower → lower ≤ number → lower ∈ numbers) :
      Diagnoses numbers (.duplicateNumber number)

theorem Diagnoses.of_perm {first second : List Nat} {problem : ContentProblem}
    (same : first.Perm second) (diagnosed : Diagnoses first problem) :
    Diagnoses second problem := by
  cases diagnosed with
  | missing below absent larger present =>
      refine .missing (fun lower positive less => ?_) ?_ larger (same.mem_iff.mp present)
      · rw [← same.count_eq, below lower positive less]
      · rwa [← same.mem_iff]
  | duplicate twice below =>
      refine .duplicate (same.count_eq _ ▸ twice) fun lower positive less => ?_
      exact same.mem_iff.mp (below lower positive less)

/-- In a sorted list, nothing behind the page that is out of place has a smaller number. -/
theorem diagnoses_of_sorted {problem : ContentProblem}
    (sorted : pages.Pairwise fun a b => a.number.val ≤ b.number.val)
    (positive : ∀ page ∈ pages, 1 ≤ page.number.val)
    (found : numberingProblem? 1 pages = some problem) : Diagnoses (numbers pages) problem := by
  rcases numberingProblem?_eq_some found with
    ⟨before, page, after, rfl, numbered, misplaced⟩
  have split : numbers (before ++ page :: after) =
      List.range' 1 before.length ++ page.number.val :: numbers after := by
    rw [← numbered, numbers, List.map_append, List.map_cons, numbers, numbers]
  have behind : ∀ number ∈ numbers after, page.number.val ≤ number := by
    intro number member
    rcases List.mem_map.mp member with ⟨later, listed, rfl⟩
    exact List.rel_of_pairwise_cons (List.pairwise_append.mp sorted).2.1 listed
  rw [split]
  rcases misplaced with ⟨low, rfl⟩ | ⟨high, rfl⟩
  · have counted : page.number.val ∈ List.range' 1 before.length :=
      List.mem_range'_1.mpr ⟨positive page (by simp), low⟩
    refine .duplicate ?_ fun lower least less => ?_
    · rw [List.count_append, List.count_cons_self]
      have once := List.one_le_count_iff.mpr counted
      omega
    · exact List.mem_append_left _ (List.mem_range'_1.mpr ⟨least, by omega⟩)
  · refine .missing (fun lower least less => ?_) (fun member => ?_) high (by simp)
    · have once : (List.range' 1 before.length).count lower = 1 :=
        List.count_eq_one_of_mem List.nodup_range' (List.mem_range'_1.mpr ⟨least, less⟩)
      have none : (page.number.val :: numbers after).count lower = 0 := by
        refine List.count_eq_zero.mpr fun member => ?_
        rcases List.mem_cons.mp member with rfl | later
        · omega
        · exact absurd (behind lower later) (by omega)
      rw [List.count_append, once, none]
    · rcases List.mem_append.mp member with counted | later
      · have bound := (List.mem_range'_1.mp counted).2
        omega
      · rcases List.mem_cons.mp later with here | later
        · omega
        · exact absurd (behind _ later) (by omega)

end Page

/-! ## Loading -/

variable {α : Type} [Scalar α] {entry : PageSpec α} {page : Page α} {spec other : ContentSpec α}
  {pages : List (Page α)}

theorem PageSpec.number_of_page (meant : entry.page = .ok page) :
    page.number = entry.number ∧ 1 ≤ page.number.val := by
  rw [PageSpec.page] at meant
  by_cases zero : entry.number.val = 0
  · rw [if_pos zero] at meant
    cases meant
  · rw [if_neg zero] at meant
    rcases Steps.bind_eq_ok.mp meant with ⟨blocks, _, equal⟩
    cases equal
    exact ⟨rfl, Nat.pos_of_ne_zero zero⟩

namespace ContentSpec

/-- The numbers of the pages as written. -/
def numbers (spec : ContentSpec α) : List Nat := spec.pages.map fun entry => entry.number.val

/-- Every page of the file makes sense on its own. -/
def Converts (spec : ContentSpec α) : Prop := ∀ entry ∈ spec.pages, ∃ page, entry.page = .ok page

/-- The pages that are meant, in the order in which they are written. -/
def converted (spec : ContentSpec α) : List (Page α) :=
  spec.pages.filterMap fun entry => entry.page.toOption

theorem mem_converted : page ∈ spec.converted ↔ ∃ entry ∈ spec.pages, entry.page = .ok page := by
  rw [converted, List.mem_filterMap]
  apply exists_congr
  intro entry
  apply and_congr_right
  intro _
  cases entry.page <;> simp [Except.toOption]

theorem Converts.numbers_converted (converts : spec.Converts) :
    Page.numbers spec.converted = spec.numbers := by
  obtain ⟨entries⟩ := spec
  induction entries with
  | nil => rfl
  | cons entry rest induction =>
      rcases converts entry List.mem_cons_self with ⟨page, meant⟩
      have later := induction fun other member => converts other (List.mem_cons_of_mem _ member)
      have listed : (ContentSpec.mk (entry :: rest)).converted =
          page :: (ContentSpec.mk rest).converted := by
        rw [converted, List.filterMap_cons, meant]
        rfl
      rw [listed, Page.numbers, List.map_cons, (PageSpec.number_of_page meant).1]
      exact congrArg (entry.number.val :: ·) later

theorem Converts.load_eq (converts : spec.Converts) :
    spec.load =
      match Page.numberingProblem? 1 (Page.sortByNumber spec.converted) with
      | some problem => .error problem.toFailure
      | none => .ok (Page.sortByNumber spec.converted) := by
  have mapped : (spec.pages.mapM fun entry =>
      Failure.atPlace ("page " ++ toString entry.number.val) entry.page) =
        .ok spec.converted := by
    rw [Steps.mapM_of_steps fun entry member =>
      (converts entry member).imp fun page meant => Failure.atPlace_eq_ok.mpr meant]
    simp only [Failure.toOption_atPlace, converted]
  rw [load, mapped]
  rfl

theorem Converts.load_eq_ok (converts : spec.Converts) :
    spec.load = .ok pages ↔
      Page.numberingProblem? 1 (Page.sortByNumber spec.converted) = none ∧
        Page.sortByNumber spec.converted = pages := by
  rw [converts.load_eq]
  cases Page.numberingProblem? 1 (Page.sortByNumber spec.converted) <;> simp

theorem Converts.load_eq_error (converts : spec.Converts) {failure : Failure} :
    spec.load = .error failure ↔
      ∃ problem, Page.numberingProblem? 1 (Page.sortByNumber spec.converted) = some problem ∧
        failure = problem.toFailure := by
  rw [converts.load_eq]
  cases Page.numberingProblem? 1 (Page.sortByNumber spec.converted) <;> simp [eq_comm]

/-! ## Files that are loaded -/

theorem Converts.length_converted (converts : spec.Converts) :
    spec.converted.length = spec.pages.length := by
  have lengths := congrArg List.length converts.numbers_converted
  rwa [Page.numbers, numbers, List.length_map, List.length_map] at lengths

/-- The pages that are meant are numbered one after the other, once they are sorted. -/
theorem Converts.sorted_iff (converts : spec.Converts) :
    Page.numberingProblem? 1 (Page.sortByNumber spec.converted) = none ↔
      spec.numbers.Perm (List.range' 1 spec.pages.length) := by
  have sorted := Page.sortByNumber_perm spec.converted
  rw [Page.numberingProblem?_eq_none, sorted.length_eq, converts.length_converted,
    ← converts.numbers_converted]
  constructor
  · intro counting
    exact counting ▸ (sorted.map _).symm
  · intro same
    rw [← converts.length_converted] at same ⊢
    exact Page.numbers_sortByNumber same

omit [Scalar α] in
theorem filter_number_eq_singleton (distinct : spec.numbers.Nodup)
    (member : entry ∈ spec.pages) :
    spec.pages.filter (fun other => other.number.val = entry.number.val) = [entry] := by
  have once : spec.numbers.count entry.number.val = 1 :=
    List.count_eq_one_of_mem distinct (List.mem_map_of_mem member)
  rw [numbers, List.count, List.countP_map, List.countP_eq_length_filter,
    List.length_eq_one_iff] at once
  rcases once with ⟨only, filtered⟩
  change spec.pages.filter (fun other => other.number.val = entry.number.val) = [only] at filtered
  have listed : entry ∈ [only] := filtered ▸ List.mem_filter.mpr ⟨member, by simp⟩
  rw [filtered, List.mem_singleton.mp listed]

theorem Converts.conversion_of_load (converts : spec.Converts) (loaded : spec.load = .ok pages)
    {index : Nat} (found : pages[index]? = some page) :
    page.number.val = index + 1 ∧
      ∃ entry, spec.pages.filter (fun entry => entry.number.val = index + 1) = [entry] ∧
        entry.page = .ok page := by
  rcases converts.load_eq_ok.mp loaded with ⟨fine, rfl⟩
  have counting := Page.numberingProblem?_eq_none.mp fine
  have position : page.number.val = index + 1 := by
    have numbered := congrArg (·[index]?) counting
    have bound := (List.getElem?_eq_some_iff.mp found).1
    simp only [Page.numbers, List.getElem?_map, found, List.getElem?_range' bound,
      Option.map_some, Option.some.injEq] at numbered
    omega
  have distinct : spec.numbers.Nodup :=
    (converts.sorted_iff.mp fine).nodup_iff.mpr List.nodup_range'
  have listed := (Page.sortByNumber_perm spec.converted).mem_iff.mp (List.mem_of_getElem? found)
  rcases mem_converted.mp listed with ⟨entry, member, meant⟩
  refine ⟨position, entry, ?_, meant⟩
  rw [← position, (PageSpec.number_of_page meant).1]
  exact filter_number_eq_singleton distinct member

theorem Converts.load_of_perm (converts : spec.Converts) (same : other.pages.Perm spec.pages) :
    other.load = spec.load := by
  have converts' : other.Converts := fun entry member => converts entry (same.mem_iff.mp member)
  have pages : other.converted.Perm spec.converted := same.filterMap _
  have problem : Page.numberingProblem? 1 (Page.sortByNumber other.converted) =
      Page.numberingProblem? 1 (Page.sortByNumber spec.converted) :=
    Page.numberingProblem?_congr (Page.numbers_sortByNumber_eq_of_perm pages)
  rw [converts.load_eq, converts'.load_eq, problem]
  cases fine : Page.numberingProblem? 1 (Page.sortByNumber spec.converted) with
  | some problem => rfl
  | none =>
      have distinct : (Page.numbers other.converted).Nodup := by
        have numbers : (Page.numbers other.converted).Perm (Page.numbers spec.converted) :=
          pages.map _
        rw [numbers.nodup_iff, converts.numbers_converted,
          (converts.sorted_iff.mp fine).nodup_iff]
        exact List.nodup_range'
      rw [Page.sortByNumber_eq_of_perm distinct pages]

theorem Converts.diagnoses_of_load (converts : spec.Converts) {failure : Failure}
    (failed : spec.load = .error failure) :
    ∃ problem, failure = problem.toFailure ∧ Page.Diagnoses spec.numbers problem := by
  rcases converts.load_eq_error.mp failed with ⟨problem, found, told⟩
  refine ⟨problem, told, ?_⟩
  have sorted := Page.sortByNumber_perm spec.converted
  rw [← converts.numbers_converted]
  refine .of_perm (sorted.map _) (Page.diagnoses_of_sorted (Page.pairwise_sortByNumber _) ?_ found)
  intro page member
  rcases mem_converted.mp (sorted.mem_iff.mp member) with ⟨entry, _, meant⟩
  exact (PageSpec.number_of_page meant).2

/-- A file whose pages make sense on their own is loaded exactly if their numbers are one to
the number of pages. Every page is then the meaning of the only one with its number, whatever
the order in which they are written. What is told otherwise is true. -/
theorem load_decides_numbering (spec : ContentSpec α)
    (converts : ∀ entry ∈ spec.pages, ∃ page, entry.page = .ok page) :
    ((∃ pages, spec.load = .ok pages) ↔
        spec.numbers.Perm (List.range' 1 spec.pages.length)) ∧
      (∀ pages, spec.load = .ok pages → pages.length = spec.pages.length ∧
        ∀ index page, pages[index]? = some page → page.number.val = index + 1 ∧
          ∃ entry, spec.pages.filter (fun entry => entry.number.val = index + 1) = [entry] ∧
            entry.page = .ok page) ∧
      (∀ other : ContentSpec α, other.pages.Perm spec.pages → other.load = spec.load) ∧
      ∀ failure, spec.load = .error failure →
        ∃ problem, failure = problem.toFailure ∧ Page.Diagnoses spec.numbers problem := by
  have converts : spec.Converts := converts
  refine ⟨?_, fun pages loaded => ⟨?_, fun index page => ?_⟩, fun other => ?_, fun failure => ?_⟩
  · rw [← converts.sorted_iff]
    constructor
    · rintro ⟨pages, loaded⟩
      exact (converts.load_eq_ok.mp loaded).1
    · exact fun fine => ⟨_, converts.load_eq_ok.mpr ⟨fine, rfl⟩⟩
  · rw [← (converts.load_eq_ok.mp loaded).2, (Page.sortByNumber_perm _).length_eq,
      converts.length_converted]
  · exact converts.conversion_of_load loaded
  · exact converts.load_of_perm
  · exact converts.diagnoses_of_load

end ContentSpec

/-! ## A leaflet of three pages -/

namespace Leaflet

def leaf (number : UInt64) : PageSpec Float where
  number := number.toFin
  width := 100
  height := 200

def file : ContentSpec Float where
  pages := [leaf 3, leaf 1, leaf 2]

def sorted : ContentSpec Float where
  pages := [leaf 1, leaf 2, leaf 3]

theorem converts : ∀ entry ∈ file.pages, ∃ page, entry.page = .ok page := by
  intro entry member
  simp only [file, List.mem_cons, List.not_mem_nil, or_false] at member
  rcases member with rfl | rfl | rfl <;> exact ⟨_, rfl⟩

end Leaflet

theorem ContentSpec.load_decides_numbering_leaflet :
    (∀ entry ∈ Leaflet.file.pages, ∃ page, entry.page = .ok page) ∧
      ∃ pages, Leaflet.file.load = .ok pages ∧ Leaflet.sorted.load = .ok pages ∧
        pages.length = 3 := by
  rcases load_decides_numbering Leaflet.file Leaflet.converts with
    ⟨loads_iff, found, reordered, _⟩
  rcases loads_iff.mpr (by decide) with ⟨pages, loaded⟩
  have same : Leaflet.sorted.pages.Perm Leaflet.file.pages :=
    @List.perm_append_comm _ [Leaflet.leaf 1, Leaflet.leaf 2] [Leaflet.leaf 3]
  exact ⟨Leaflet.converts, pages, loaded, (reordered _ same).trans loaded, (found _ loaded).1⟩

end PageSketch
