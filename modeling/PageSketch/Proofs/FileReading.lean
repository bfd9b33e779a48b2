import PageSketch.Document
import PageSketch.Proofs.Outcomes

/-! # Files that are read once

A source is called any number of times, and at each call its file may be another one, or
missing, or without meaning. What a call is answered follows from the calls before it and from
the files at that time: the first call that nothing stops and that finds a file with a meaning
settles the pages for good. -/

namespace PageSketch.FileSource

/-- What a call asks for. -/
inductive Request where
  | validation
  | pages (range : PageRange)

/-- A call, and what the world looks like when it is made. -/
structure Call where
  request : Request
  /-- What the file holds; none if it cannot be read. -/
  contents : Option ByteArray
  token : CancelToken
  signals : Signals

/-- What a call is answered that does not fail. -/
inductive Answer (α : Type) where
  | valid
  | pages (selected : List (Page α))

variable {α : Type}

/-- The answer to a request if the file has the given pages. -/
def Request.answer (pages : List (Page α)) : Request → Answer α
  | .validation => .valid
  | .pages range => .pages (Page.select range pages)

variable [Scalar α] {source next : FileSource α} {call : Call}
  {outcome : Except Failure (Answer α)}

/-- The outcome of a call, and the source after it. -/
def respond (source : FileSource α) (call : Call) : Except Failure (Answer α) × FileSource α :=
  match call.request with
  | .validation =>
      let (outcome, next) := source.validate call.contents call.token call.signals
      (outcome.map fun _ => .valid, next)
  | .pages range =>
      let (outcome, next) := source.parsePages call.contents call.token call.signals range
      (outcome.map .pages, next)

/-- The source after calls one after the other. -/
def after (source : FileSource α) (calls : List Call) : FileSource α :=
  calls.foldl (fun source call => (source.respond call).2) source

/-- The pages that a call gets from the file, if nothing stops it and they have a meaning. -/
def Call.reading? (α : Type) [Scalar α] (call : Call) : Option (List (Page α)) :=
  match call.token.check call.signals with
  | .error _ => none
  | .ok () => (parse call.contents).toOption

/-- The pages that the first of several calls gets which gets any. -/
def firstReading? (α : Type) [Scalar α] (calls : List Call) : Option (List (Page α)) :=
  calls.findSome? (Call.reading? α)

/-! ## One call -/

/-- All that a call can do. -/
inductive Responds (source : FileSource α) (call : Call) :
    Except Failure (Answer α) → FileSource α → Prop
  | stopped {failure : Failure} (check : call.token.check call.signals = .error failure) :
      Responds source call (.error failure) source
  | known {pages : List (Page α)} (check : call.token.check call.signals = .ok ())
      (loaded : source.loaded = some pages) :
      Responds source call (.ok (call.request.answer pages)) source
  | read {pages : List (Page α)} (check : call.token.check call.signals = .ok ())
      (unread : source.loaded = none) (parsed : parse call.contents = .ok pages) :
      Responds source call (.ok (call.request.answer pages)) { source with loaded := some pages }
  | unreadable {failure : Failure} (check : call.token.check call.signals = .ok ())
      (unread : source.loaded = none)
      (failed : parse (α := α) call.contents = .error failure) :
      Responds source call (.error (.within source.path failure)) source

theorem respond_of_stopped {failure : Failure}
    (check : call.token.check call.signals = .error failure) :
    source.respond call = (.error failure, source) := by
  rw [respond]
  cases call.request <;> simp only [validate, parsePages, check] <;> rfl

theorem respond_of_check (check : call.token.check call.signals = .ok ()) :
    source.respond call = ((source.load call.contents).1.map call.request.answer,
      (source.load call.contents).2) := by
  rw [respond]
  cases call.request with
  | validation =>
      simp only [validate, check]
      cases (source.load call.contents).1 <;> rfl
  | pages range =>
      simp only [parsePages, check]
      cases (source.load call.contents).1 <;> rfl

theorem responds_respond (source : FileSource α) (call : Call) :
    Responds source call (source.respond call).1 (source.respond call).2 := by
  cases check : call.token.check call.signals with
  | error failure =>
      rw [respond_of_stopped check]
      exact .stopped check
  | ok =>
      rw [respond_of_check check, load]
      cases loaded : source.loaded with
      | some pages => exact .known check loaded
      | none =>
          cases parsed : parse (α := α) call.contents with
          | ok pages => exact .read check loaded parsed
          | error failure => exact .unreadable check loaded parsed

namespace Responds

/-- A call that fails changes nothing. -/
theorem unchanged {failure : Failure} (responds : Responds source call (.error failure) next) :
    next = source := by
  cases responds <;> rfl

theorem path (responds : Responds source call outcome next) : next.path = source.path := by
  cases responds <;> rfl

/-- Pages that are known stay, and otherwise those are kept that the call gets. -/
theorem loaded (responds : Responds source call outcome next) :
    next.loaded = source.loaded.or (call.reading? α) := by
  cases responds with
  | stopped check => simp [Call.reading?, check]
  | known check loaded => simp [loaded]
  | read check unread parsed => simp [Call.reading?, check, unread, parsed, Except.toOption]
  | unreadable check unread failed =>
      simp [Call.reading?, check, unread, failed, Except.toOption]

end Responds

/-! ## Many calls -/

theorem path_after (source : FileSource α) (calls : List Call) :
    (source.after calls).path = source.path := by
  induction calls generalizing source with
  | nil => rfl
  | cons call rest induction =>
      exact (induction (source.respond call).2).trans (responds_respond source call).path

theorem loaded_after (source : FileSource α) (calls : List Call) :
    (source.after calls).loaded = source.loaded.or (firstReading? α calls) := by
  induction calls generalizing source with
  | nil => exact (Option.or_none).symm
  | cons call rest induction =>
      have first := (responds_respond source call).loaded
      calc (source.after (call :: rest)).loaded
          = (source.respond call).2.loaded.or (firstReading? α rest) := induction _
        _ = source.loaded.or ((call.reading? α).or (firstReading? α rest)) := by
            rw [first, Option.or_assoc]
        _ = source.loaded.or (firstReading? α (call :: rest)) := by
            rw [firstReading?, firstReading?, List.findSome?_cons]
            cases call.reading? α <;> rfl

/-- What a source keeps after any calls is told by the calls alone. -/
theorem after_eq (path : String) (calls : List Call) :
    after { path } calls = { path, loaded := firstReading? α calls } := by
  have kept := path_after (α := α) { path } calls
  have read := loaded_after (α := α) { path } calls
  rw [Option.none_or] at read
  calc after { path } calls
      = { path := (after { path } calls).path, loaded := (after { path } calls).loaded } := rfl
    _ = { path, loaded := firstReading? α calls } := by rw [kept, read]

/-- Whatever calls have been made of a source, and whatever its file was at each of them: a call
that fails changes nothing. As long as no call has got any pages, a call that nothing stops
tells what the file means at that time. Afterwards, every call that nothing stops is answered
from the pages that the first such call has got, whatever the file holds. A call that is
stopped tells why, whatever the file holds, and changes nothing. -/
theorem respond_after (path : String) (calls : List Call) (call : Call) :
    let source : FileSource α := after { path } calls
    (∀ failure, (source.respond call).1 = .error failure → (source.respond call).2 = source) ∧
    (call.token.check call.signals = .ok () → firstReading? α calls = none →
      (source.respond call).1 =
        (Failure.atPlace path (parse call.contents)).map call.request.answer) ∧
    (call.token.check call.signals = .ok () → ∀ pages, firstReading? α calls = some pages →
      ∀ contents, source.respond { call with contents } =
        (.ok (call.request.answer pages), source)) ∧
    ∀ failure, call.token.check call.signals = .error failure →
      ∀ contents, source.respond { call with contents } = (.error failure, source) := by
  intro source
  have kept : source = { path, loaded := firstReading? α calls } := after_eq path calls
  refine ⟨fun failure failed => ?_, fun check unread => ?_, fun check pages read contents => ?_,
    fun failure check contents => ?_⟩
  · have responds := responds_respond source call
    rw [failed] at responds
    exact responds.unchanged
  · rw [kept, unread, respond_of_check check, load]
    cases parse (α := α) call.contents <;> rfl
  · rw [kept, read]
    exact respond_of_check check
  · exact respond_of_stopped check

end PageSketch.FileSource
