import PageSketch.Failure

/-! # Cancellation

Work is stopped by raising a flag or by letting a deadline pass. A token names
what to watch; the state of the flags and the clock is given when it is checked.
Tokens derived from one another share their flag.

Work looks at the world before each check. Where the world goes on by itself this is an
effect; a timeline tells in advance what will be seen. -/

namespace PageSketch

/-- What the world looks like at one moment. -/
structure Signals where
  raised : List Nat := []
  /-- The time in seconds. -/
  now : Nat := 0
deriving DecidableEq, Repr

def Signals.raise (signals : Signals) (flag : Nat) : Signals :=
  { signals with raised := flag :: signals.raised }

/-- What stops a piece of work. -/
structure CancelToken where
  flag : Nat
  deadline : Option Nat := none
deriving DecidableEq, Repr

namespace CancelToken

/-- A token with the same flag that also expires at `deadline`, if it does not
expire earlier anyway. -/
def withDeadline (token : CancelToken) (deadline : Nat) : CancelToken :=
  { token with
    deadline := some (match token.deadline with
      | some current => min current deadline
      | none => deadline) }

def withTimeout (token : CancelToken) (signals : Signals) (seconds : Nat) : CancelToken :=
  token.withDeadline (signals.now + seconds)

/-- The last second that the clock can tell. -/
def clockEnd : Nat := 9223372036854775807

/-- There is no such token if the clock does not reach its deadline. -/
def withTimeout? (token : CancelToken) (signals : Signals) (seconds : Nat) :
    Option CancelToken :=
  if signals.now + seconds ≤ clockEnd then some (token.withTimeout signals seconds) else none

/-- Raises the flag of the token, and so that of all tokens derived with it. -/
def cancel (token : CancelToken) (signals : Signals) : Signals :=
  signals.raise token.flag

def isCancelled (token : CancelToken) (signals : Signals) : Bool :=
  signals.raised.contains token.flag

def stopped? (token : CancelToken) (signals : Signals) : Option Cause :=
  if token.isCancelled signals then some .cancelled
  else if token.deadline.any (· ≤ signals.now) then some .deadlineExceeded
  else none

/-- Fails once the flag is raised or the deadline has passed. -/
def check (token : CancelToken) (signals : Signals) : Except Failure Unit :=
  match token.stopped? signals with
  | some cause => .error (.cause cause)
  | none => .ok ()

end CancelToken

/-! ## Looking at the world -/

/-- Works on items one after the other, with a look at the world before each of them. -/
def Signals.inTurn {m : Type → Type} [Monad m] {β γ : Type} (look : m Signals)
    (work : Signals → β → Except Failure γ) (items : List β) : ExceptT Failure m (List γ) :=
  items.mapM fun item => do work (← look) item

/-- What is seen of the world each time that it is looked at, counted from zero. -/
abbrev Timeline := Nat → Signals

namespace Timeline

def look : StateM Timeline Signals := fun timeline =>
  (timeline 0, fun index => timeline (index + 1))

/-- What comes of work that looks at the world, and what there is to be seen after it. -/
def follow {β : Type} (timeline : Timeline) (work : StateM Timeline β) : β × Timeline :=
  work.run timeline

end Timeline

end PageSketch
