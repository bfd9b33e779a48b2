import PageSketch.Pattern.Match

/-! # Where matches stand

A way through a program keeps the positions at which it began and at which groups were opened
and closed, and it is done at a position that is not before any of these. A match and what its
groups capture are therefore stretches of its text. -/

namespace PageSketch

namespace Pattern

/-- A stretch ends at or before a position, and not before it begins. -/
def Span.EndsBy (position : Nat) (span : Span) : Prop :=
  span.start ≤ span.stop ∧ span.stop ≤ position

theorem Span.EndsBy.mono {first last : Nat} {span : Span} (ends : span.EndsBy first)
    (before : first ≤ last) : span.EndsBy last :=
  ⟨ends.1, Nat.le_trans ends.2 before⟩

theorem mem_of_lookup {β : Type} {marks : List (Nat × β)} {group : Nat} {value : β}
    (found : marks.lookup group = some value) : (group, value) ∈ marks := by
  rcases List.lookup_eq_some_iff.mp found with ⟨before, after, rfl, _⟩
  exact List.mem_append_right before List.mem_cons_self

/-- All positions that a way through a program has kept are at or before another one. -/
structure Thread.EndsBy (position : Nat) (thread : Thread) : Prop where
  start : thread.start ≤ position
  opened : ∀ mark ∈ thread.opened, mark.2 ≤ position
  captured : ∀ mark ∈ thread.captured, mark.2.EndsBy position

namespace Thread.EndsBy

variable {position : Nat} {thread : Thread}

theorem mono {first last : Nat} (ends : thread.EndsBy first) (before : first ≤ last) :
    thread.EndsBy last where
  start := Nat.le_trans ends.start before
  opened mark member := Nat.le_trans (ends.opened mark member) before
  captured mark member := (ends.captured mark member).mono before

theorem begin (position : Nat) : EndsBy position { place := 0, start := position } :=
  ⟨Nat.le_refl position, List.forall_mem_nil _, List.forall_mem_nil _⟩

theorem jump (ends : thread.EndsBy position) (next : Nat) :
    EndsBy position { thread with place := next } :=
  ⟨ends.start, ends.opened, ends.captured⟩

theorem openGroup (ends : thread.EndsBy position) (group next : Nat) :
    EndsBy position { thread with
      place := next, opened := (group, position) :: thread.opened } :=
  ⟨ends.start, List.forall_mem_cons.mpr ⟨Nat.le_refl position, ends.opened⟩, ends.captured⟩

/-- A group that was never opened is closed where it begins. -/
theorem closeGroup (ends : thread.EndsBy position) (group next : Nat) :
    EndsBy position { thread with
      place := next
      captured := (group, ⟨(thread.opened.lookup group).getD position, position⟩) ::
        thread.captured } := by
  have start : (thread.opened.lookup group).getD position ≤ position := by
    cases found : thread.opened.lookup group with
    | none => exact Nat.le_refl position
    | some start => exact ends.opened _ (mem_of_lookup found)
  exact ⟨ends.start, ends.opened,
    List.forall_mem_cons.mpr ⟨⟨start, Nat.le_refl position⟩, ends.captured⟩⟩

end Thread.EndsBy

/-- A match and what its groups captured end at or before a position. -/
structure Finding.EndsBy (position : Nat) (finding : Finding) : Prop where
  whole : finding.whole.EndsBy position
  captured : ∀ mark ∈ finding.captured, mark.2.EndsBy position

theorem Finding.EndsBy.mono {first last : Nat} {finding : Finding} (ends : finding.EndsBy first)
    (before : first ≤ last) : finding.EndsBy last where
  whole := ends.whole.mono before
  captured mark member := (ends.captured mark member).mono before

namespace Search

variable {program : Program} {around : Surroundings} {position : Nat} {expansion : Expansion}
  {threads : List Thread} {thread : Thread} {found : Option Finding}

/-- All threads have kept positions at or before another one. -/
def EndBy (position : Nat) (threads : List Thread) : Prop :=
  ∀ thread ∈ threads, thread.EndsBy position

theorem endBy_cons :
    EndBy position (thread :: threads) ↔ thread.EndsBy position ∧ EndBy position threads :=
  List.forall_mem_cons

theorem EndBy.entering (ends : EndBy position threads) :
    EndBy position (entering position threads found) := by
  cases found with
  | none =>
      exact List.forall_mem_append.mpr ⟨ends, List.forall_mem_singleton.mpr (.begin position)⟩
  | some finding => exact ends

theorem EndBy.expand {bound : Nat} (ends : thread.EndsBy position)
    (ready : EndBy position expansion.ready) :
    EndBy position (expand program around position bound expansion thread).ready := by
  induction bound generalizing expansion thread with
  | zero => exact ready
  | succ bound induction =>
      rw [Search.expand]
      split
      · exact ready
      · dsimp only
        -- Whatever the instruction, what the threads that follow it keep is from here or before.
        split
        · exact induction (ends.jump _) ready
        · exact induction (ends.jump _) (induction (ends.jump _) ready)
        · split
          · exact induction (ends.jump _) ready
          · exact ready
        · exact induction (ends.openGroup _ _) ready
        · exact induction (ends.closeGroup _ _) ready
        · exact endBy_cons.mpr ⟨ends, ready⟩
        · exact endBy_cons.mpr ⟨ends, ready⟩
        · exact ready

theorem EndBy.foldl_expand {bound : Nat} (ends : EndBy position threads)
    (ready : EndBy position expansion.ready) :
    EndBy position
      (threads.foldl (Search.expand program around position bound) expansion).ready := by
  induction threads generalizing expansion with
  | nil => exact ready
  | cons thread rest induction =>
      rcases endBy_cons.mp ends with ⟨first, later⟩
      exact induction later (expand first ready)

theorem EndBy.advance (ends : EndBy position threads) (character : Option Char) :
    EndBy position (advance program character threads).1 ∧
      ∀ thread ∈ (advance program character threads).2, thread.EndsBy position := by
  induction threads with
  | nil => exact ⟨ends, nofun⟩
  | cons thread rest induction =>
      rcases endBy_cons.mp ends with ⟨first, others⟩
      rcases induction others with ⟨later, done⟩
      rw [Search.advance]
      split
      · refine ⟨List.forall_mem_nil _, fun other member => ?_⟩
        cases member
        exact first
      · dsimp only
        split
        · exact ⟨endBy_cons.mpr ⟨first.jump _, later⟩, done⟩
        · exact ⟨later, done⟩
      · exact ⟨later, done⟩

/-- What one position makes of the threads. -/
theorem EndBy.step {bound : Nat} {reached : Array Nat} {character : Option Char}
    (ends : EndBy position threads) :
    let ready := ((Search.entering position threads found).foldl
      (Search.expand program around position bound) { reached }).ready.reverse
    EndBy position (Search.advance program character ready).1 ∧
      ∀ thread ∈ (Search.advance program character ready).2, thread.EndsBy position := by
  have expanded : EndBy position ((Search.entering position threads found).foldl
      (Search.expand program around position bound) { reached }).ready :=
    ends.entering.foldl_expand (List.forall_mem_nil _)
  exact advance (fun thread member => expanded thread (List.mem_reverse.mp member)) character

theorem endsBy_done {done? : Option Thread} (threadEnds : ∀ thread ∈ done?, thread.EndsBy position)
    (ends : ∀ finding ∈ found, finding.EndsBy position) :
    ∀ finding ∈ (match done? with
      | some thread =>
          some ({ whole := ⟨thread.start, position⟩, captured := thread.captured } : Finding)
      | none => found), finding.EndsBy position := by
  cases done? with
  | none => exact ends
  | some thread =>
      intro finding member
      cases member
      have done := threadEnds thread rfl
      exact ⟨⟨done.start, position.le_refl⟩, done.captured⟩

theorem endsBy_scan {before : Option Char} {reached : Array Nat} {text : List Char}
    (threadsEnd : EndBy position threads) (ends : ∀ finding ∈ found, finding.EndsBy position) :
    ∀ finding ∈ scan program position before reached threads found text,
      finding.EndsBy (position + text.length) := by
  induction text generalizing position before reached threads found with
  | nil =>
      rw [scan]
      split
      · exact ends
      · exact endsBy_done threadsEnd.step.2 ends
  | cons character rest induction =>
      rw [scan]
      split
      · exact fun finding member => (ends finding member).mono (Nat.le_add_right _ _)
      · rw [List.length_cons, Nat.add_comm rest.length, ← Nat.add_assoc]
        refine induction (fun thread member => ?_) fun finding member => ?_
        · exact (threadsEnd.step.1 thread member).mono (Nat.le_succ position)
        · exact (endsBy_done threadsEnd.step.2 ends finding member).mono (Nat.le_succ position)

theorem endsBy_of_find? {text : List Char} {finding : Finding}
    (found : find? program text = some finding) : finding.EndsBy text.length := by
  have began : EndBy 0 [] := List.forall_mem_nil _
  have nothing : ∀ finding ∈ (none : Option Finding), finding.EndsBy 0 := nofun
  have ends := endsBy_scan began nothing finding found
  rwa [Nat.zero_add] at ends

end Search

end Pattern

namespace PatternMatch

variable {pattern : Pattern} {text : String} {found : PatternMatch}

theorem byteOffset_add (text : List Char) (start length : Nat) :
    byteOffset text (start + length) =
      byteOffset text start + Text.byteLength ((text.drop start).take length) := by
  rw [byteOffset, List.take_add, Text.byteLength_append, byteOffset]

theorem byteOffset_le (text : List Char) (count : Nat) :
    byteOffset text count ≤ Text.byteLength text := by
  have whole := Text.byteLength_append (text.take count) (text.drop count)
  rw [List.take_append_drop] at whole
  rw [whole]
  exact Nat.le_add_right _ _

theorem byteOffset_stop {span : Pattern.Span} (text : List Char)
    (ordered : span.start ≤ span.stop) :
    byteOffset text span.stop =
      byteOffset text span.start + Text.byteLength (slice text span) := by
  rw [slice, ← byteOffset_add, Nat.add_sub_cancel' ordered]

/-- A stretch of a text lies between what comes before it and what comes after it. -/
theorem take_append_slice_append_drop {span : Pattern.Span} (text : List Char)
    (ordered : span.start ≤ span.stop) :
    text.take span.start ++ slice text span ++ text.drop span.stop = text := by
  rw [slice, ← List.take_add, Nat.add_sub_cancel' ordered, List.take_append_drop]

/-- The bytes of a stretch are those of the text from one offset to another one. -/
theorem toByteArray_slice {span : Pattern.Span} (text : String)
    (ordered : span.start ≤ span.stop) :
    (String.ofList (slice text.toList span)).toByteArray =
      text.toByteArray.extract (byteOffset text.toList span.start)
        (byteOffset text.toList span.stop) := by
  have parts : (String.ofList (text.toList.take span.start)).toByteArray ++
      ((String.ofList (slice text.toList span)).toByteArray ++
        (String.ofList (text.toList.drop span.stop)).toByteArray) = text.toByteArray := by
    rw [← String.toByteArray_append, ← String.toByteArray_append, ← String.ofList_append,
      ← String.ofList_append, ← List.append_assoc, take_append_slice_append_drop _ ordered,
      String.ofList_toList]
  have before := Text.utf8ByteSize_ofList (text.toList.take span.start)
  have inside := Text.utf8ByteSize_ofList (slice text.toList span)
  rw [← String.size_toByteArray] at before inside
  rw [byteOffset_stop _ ordered, byteOffset, ← before, ← inside, ← parts]
  exact (ByteArray.extract_append_size_add.trans (ByteArray.extract_append_eq_left rfl)).symm

theorem span_of_group? {index : Nat} {group : MatchGroup}
    (captured : found.group? index = some group) : group.span = found.span? index := by
  rcases Option.map_eq_some_iff.mp captured with ⟨_, _, rfl⟩
  rfl

/-- What was matched is a part of the text, and the bytes of the match are those of this
part. -/
theorem exists_matched (evaluated : evaluate? pattern text = some found) :
    ∃ before matched after group, text.toList = before ++ matched ++ after ∧
      found.group? 0 = some group ∧ group.text.toList = matched ∧
      found.span? 0 = some ⟨Text.byteLength before,
        Text.byteLength before + Text.byteLength matched⟩ := by
  rcases Option.map_eq_some_iff.mp evaluated with ⟨⟨whole, _⟩, here, rfl⟩
  have ordered : whole.start ≤ whole.stop := (Pattern.Search.endsBy_of_find? here).whole.1
  refine ⟨text.toList.take whole.start, slice text.toList whole, text.toList.drop whole.stop, _,
    (take_append_slice_append_drop _ ordered).symm, rfl, String.toList_ofList, ?_⟩
  exact congrArg (fun stop => some (Pattern.Span.mk (byteOffset text.toList whole.start) stop))
    (byteOffset_stop text.toList ordered)

end PatternMatch

end PageSketch
