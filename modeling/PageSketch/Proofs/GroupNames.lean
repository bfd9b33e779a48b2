import Mathlib.Data.List.Basic
import PageSketch.Pattern.Match

/-! # Names of groups

While a pattern is read, a name is given to a group only if no group has it yet. The names of a
pattern therefore tell its groups apart, and a match has the group with a name where the name
stands among those of the pattern. -/

namespace PageSketch

namespace Pattern

/-- No two groups have the same name. Groups need not have names. -/
def NamedApart (names : List (Option String)) : Prop :=
  names.Pairwise fun name other => name = other → name = none

/-! ## Reading -/

namespace Reader

variable {reader next : Reader} {text rest : List Char}

/-- What was read gives at most one group a name that no group had. -/
inductive Adds (reader next : Reader) : Prop
  | nothing (same : next.names = reader.names)
  | group {name : Option String} (added : next.names = name :: reader.names)
      (fresh : name ∈ reader.names → name = none)

theorem Adds.namedApart (adds : reader.Adds next) (apart : NamedApart reader.names) :
    NamedApart next.names := by
  cases adds with
  | nothing same => rwa [same]
  | group added fresh =>
      rw [added]
      exact List.pairwise_cons.mpr ⟨fun other member same => fresh (same ▸ member), apart⟩

theorem Adds.getLast? {name : Option String} (adds : reader.Adds next)
    (last : reader.names.getLast? = some name) : next.names.getLast? = some name := by
  cases adds with
  | nothing same => rw [same, last]
  | group added => rw [added, List.getLast?_cons, last, Option.getD_some]

theorem names_repeatLast? {least : Nat} {most : Option Nat} {isLazy : Bool}
    (repeated : reader.repeatLast? least most isLazy = some next) :
    next.names = reader.names := by
  rw [repeatLast?] at repeated
  split at repeated
  · cases repeated
  · split at repeated
    · cases repeated
    · cases repeated
      rfl

theorem names_repeatMark? {least : Nat} {most : Option Nat}
    (repeated : reader.repeatMark? least most text = some (next, rest)) :
    next.names = reader.names := by
  rcases Option.map_eq_some_iff.mp repeated with ⟨other, marked, equal⟩
  cases equal
  exact names_repeatLast? marked

theorem names_repeatCounts? (repeated : reader.repeatCounts? text = some (next, rest)) :
    next.names = reader.names := by
  rcases Option.bind_eq_some_iff.mp repeated with ⟨⟨⟨least, most⟩, behind⟩, _, repeats⟩
  rcases Option.bind_eq_some_iff.mp repeats with ⟨other, marked, equal⟩
  cases equal
  exact names_repeatLast? marked

theorem adds_enterCapture? {name : Option String}
    (entered : reader.enterCapture? name = some next) : reader.Adds next := by
  rw [enterCapture?] at entered
  split at entered
  · cases entered
  · next unused =>
      cases entered
      refine .group rfl fun member => ?_
      by_contra given
      exact unused ⟨Option.isSome_iff_ne_none.mpr given, List.contains_iff_mem.mpr member⟩

theorem names_readFlags? (read : reader.readFlags? text = some (next, rest)) :
    next.names = reader.names := by
  rcases Option.bind_eq_some_iff.mp read with ⟨flags, _, opened⟩
  split at opened
  · cases opened
    rfl
  · split at opened
    · cases opened
    · cases opened
      rfl
  · cases opened

theorem adds_openNamed? (opened : (do
      let (name, rest) ← readName? text
      return (← reader.enterCapture? (some name), rest)) = some (next, rest)) :
    reader.Adds next := by
  rcases Option.bind_eq_some_iff.mp opened with ⟨⟨name, behind⟩, _, entering⟩
  rcases Option.bind_eq_some_iff.mp entering with ⟨other, entered, equal⟩
  cases equal
  exact adds_enterCapture? entered

theorem adds_openGroup? (opened : reader.openGroup? text = some (next, rest)) :
    reader.Adds next := by
  rw [openGroup?] at opened
  split at opened
  · cases opened
  · cases opened
  · cases opened
  · cases opened
  · exact adds_openNamed? opened
  · exact adds_openNamed? opened
  · exact .nothing (names_readFlags? opened)
  · rcases Option.map_eq_some_iff.mp opened with ⟨other, entered, equal⟩
    cases equal
    exact adds_enterCapture? entered

theorem names_closeGroup? (closed : reader.closeGroup? = some next) :
    next.names = reader.names := by
  rw [closeGroup?] at closed
  split at closed
  · cases closed
  · cases closed
    rfl

theorem adds_of_step? {character : Char}
    (stepped : reader.step? character text = some (next, rest)) : reader.Adds next := by
  rw [step?.eq_def] at stepped
  split at stepped
  · exact adds_openGroup? stepped
  · rcases Option.map_eq_some_iff.mp stepped with ⟨other, closed, equal⟩
    cases equal
    exact .nothing (names_closeGroup? closed)
  · cases stepped
    exact .nothing rfl
  · rcases Option.bind_eq_some_iff.mp stepped with ⟨_, _, equal⟩
    cases equal
    exact .nothing rfl
  · exact .nothing (names_repeatMark? stepped)
  · exact .nothing (names_repeatMark? stepped)
  · exact .nothing (names_repeatMark? stepped)
  · exact .nothing (names_repeatCounts? stepped)
  · rcases Option.map_eq_some_iff.mp stepped with ⟨_, _, equal⟩
    cases equal
    exact .nothing rfl
  · cases stepped
    exact .nothing rfl
  · cases stepped
    exact .nothing rfl
  · rcases Option.bind_eq_some_iff.mp stepped with ⟨_, _, pushed⟩
    rcases Option.bind_eq_some_iff.mp pushed with ⟨_, _, equal⟩
    cases equal
    exact .nothing rfl
  · rcases Option.bind_eq_some_iff.mp stepped with ⟨_, _, equal⟩
    cases equal
    exact .nothing rfl

/-- Groups are kept apart all the way through a pattern, and the whole match has no name. -/
theorem named_of_readAll? {bound : Nat} (read : readAll? bound reader text = some next)
    (apart : NamedApart reader.names) (whole : reader.names.getLast? = some none) :
    NamedApart next.names ∧ next.names.getLast? = some none := by
  induction bound generalizing reader text with
  | zero => cases read
  | succ bound induction =>
      rw [readAll?] at read
      split at read
      · cases read
        exact ⟨apart, whole⟩
      · split at read
        · next stepped =>
            have adds := adds_of_step? stepped
            exact induction read (adds.namedApart apart) (adds.getLast? whole)
        · cases read

end Reader

theorem named_of_readExpr? {text : List Char} {expr : Expr} {names : List (Option String)}
    (read : readExpr? text = some (expr, names)) :
    NamedApart names ∧ names.head? = some none := by
  rcases Option.bind_eq_some_iff.mp read with ⟨reader, all, closed⟩
  have start : NamedApart [none] := List.pairwise_singleton _ _
  rcases Reader.named_of_readAll? all start rfl with ⟨apart, whole⟩
  dsimp only at closed
  split at closed
  · cases closed
    constructor
    · apply List.pairwise_reverse.mpr
      exact apart.imp fun told same => same.trans (told same.symm)
    · rw [List.head?_reverse, whole]
  · cases closed

/-! ## Patterns -/

variable {pattern : Pattern} {source : String}

/-- The names of a pattern are those of its groups, the whole match first. -/
structure NamesGroups (pattern : Pattern) : Prop where
  whole : pattern.names[0]? = some none
  unique : ∀ (index other : Nat) name, pattern.names[index]? = some (some name) →
    pattern.names[other]? = some (some name) → index = other

theorem NamedApart.unique {names : List (Option String)} (apart : NamedApart names)
    {index other : Nat} {name : String} (here : names[index]? = some (some name))
    (there : names[other]? = some (some name)) : index = other := by
  rcases List.getElem?_eq_some_iff.mp here with ⟨inside, found⟩
  rcases List.getElem?_eq_some_iff.mp there with ⟨within, same⟩
  have ordered := List.pairwise_iff_getElem.mp apart
  rcases Nat.lt_trichotomy index other with before | equal | behind
  · have unnamed := ordered index other inside within before (found.trans same.symm)
    rw [found] at unnamed
    cases unnamed
  · exact equal
  · have unnamed := ordered other index within inside behind (same.trans found.symm)
    rw [same] at unnamed
    cases unnamed

/-- A name that is left in an expression has stood there before. -/
theorem getElem?_of_groupNames {expr : Expr} {names : List (Option String)} {index : Nat}
    {name : String} (left : (groupNames expr names)[index]? = some (some name)) :
    names[index]? = some (some name) := by
  rw [groupNames, List.getElem?_map] at left
  rcases Option.map_eq_some_iff.mp left with ⟨group, here, told⟩
  rcases List.getElem?_eq_some_iff.mp here with ⟨_, same⟩
  rw [List.getElem_range] at same
  subst same
  split at told
  · exact Option.join_eq_some_iff.mp told
  · cases told

theorem head?_groupNames {expr : Expr} {names : List (Option String)}
    (whole : names.head? = some none) : (groupNames expr names)[0]? = some none := by
  rw [List.head?_eq_getElem?] at whole
  simp [groupNames, List.range_succ_eq_map, whole]

theorem namesGroups_of_compile (compiled : compile source = .ok pattern) :
    pattern.NamesGroups := by
  rw [compile] at compiled
  split at compiled
  · next read =>
      cases compiled
      rcases Option.bind_eq_some_iff.mp read with ⟨⟨expr, names⟩, meant, fits⟩
      rcases named_of_readExpr? meant with ⟨apart, whole⟩
      dsimp only at fits
      split at fits
      · cases fits
        constructor
        · exact head?_groupNames whole
        · intro index other name here there
          exact apart.unique (getElem?_of_groupNames here) (getElem?_of_groupNames there)
      · cases fits
  · cases compiled

end Pattern

/-! ## Matches -/

namespace PatternMatch

variable {found : PatternMatch} {index : Nat} {group : MatchGroup} {name : String}

/-- What there is to tell of a group with a number, if there is one. -/
def entry (found : PatternMatch) (index : Nat) : MatchGroup where
  name := ((found.pattern.names[index]?).join).getD ""
  span := found.span? index
  text := ((found.spans[index]?).join).elim "" fun span =>
    String.ofList (slice found.text.toList span)

theorem group?_eq_some :
    found.group? index = some group ↔ index < found.size ∧ group = found.entry index := by
  rw [group?, size]
  by_cases inside : index < found.spans.length
  · simp [entry, inside, eq_comm]
  · simp [inside]

/-- No group is left out of the list of all groups. -/
theorem groups_eq (found : PatternMatch) :
    found.groups = (List.range found.size).map found.entry := by
  apply List.filterMap_eq_map_iff_forall_eq_some.mpr
  intro index member
  exact group?_eq_some.mpr ⟨List.mem_range.mp member, rfl⟩

theorem getElem?_groups (found : PatternMatch) (index : Nat) :
    found.groups[index]? = found.group? index := by
  rw [groups_eq]
  apply Option.ext
  intro group
  rw [group?_eq_some, List.getElem?_map, Option.map_eq_some_iff]
  by_cases inside : index < found.size
  · simp [inside, eq_comm]
  · simp [inside]

theorem name_entry (filled : name ≠ "") :
    (found.entry index).name = name ↔ found.pattern.names[index]? = some (some name) := by
  rw [entry]
  cases found.pattern.names[index]? with
  | none => simpa using filled.symm
  | some given =>
      cases given with
      | none => simpa using filled.symm
      | some other => simp

/-- A match tells the same of a group whether it is asked for it by its number, by its name, or
for all groups. -/
structure Coherent (found : PatternMatch) : Prop where
  listed : ∀ index : Nat, found.groups[index]? = found.group? index
  named : ∀ name ≠ "", ∀ group, found.named? name = some group ↔
    ∃ index, found.group? index = some group ∧ group.name = name

theorem coherent_of_namesGroups (names : found.pattern.NamesGroups) : found.Coherent where
  listed := found.getElem?_groups
  named name filled group := by
    rw [named?, if_neg (by simpa using filled), Option.bind_eq_some_iff]
    apply exists_congr
    intro index
    constructor
    · intro both
      rcases both with ⟨first, here⟩
      rcases List.findIdx?_eq_some_iff_getElem.mp first with ⟨inside, same, _⟩
      rw [decide_eq_true_eq] at same
      refine ⟨here, ?_⟩
      rw [(group?_eq_some.mp here).2]
      exact (name_entry filled).mpr (List.getElem?_eq_some_iff.mpr ⟨inside, same⟩)
    · intro both
      rcases both with ⟨here, same⟩
      refine ⟨?_, here⟩
      rw [(group?_eq_some.mp here).2, name_entry filled] at same
      rcases List.getElem?_eq_some_iff.mp same with ⟨inside, equal⟩
      refine List.findIdx?_eq_some_iff_getElem.mpr ⟨inside, by simpa using equal, ?_⟩
      intro other before
      have within := Nat.lt_trans before inside
      simp only [decide_eq_true_eq]
      intro alike
      have twice := names.unique other index name
        (List.getElem?_eq_some_iff.mpr ⟨within, alike⟩) same
      exact absurd twice (Nat.ne_of_lt before)

end PatternMatch

end PageSketch
