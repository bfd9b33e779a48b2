import PageSketch.Cancellation

/-! # Families of tokens

Tokens are made from one another, starting with a root. A family keeps all of them, with
what each was made from and the deadline that was asked for. Members are added and
cancelled, and time passes, in any order. -/

namespace PageSketch

inductive Derivation where
  | clone
  | withDeadline (deadline : Nat)
  | withTimeout (seconds : Nat)
deriving DecidableEq, Repr

def Derivation.deadline? (signals : Signals) : Derivation → Option Nat
  | .clone => none
  | .withDeadline deadline => some deadline
  | .withTimeout seconds => some (signals.now + seconds)

/-- The token that is made from another one, unless the clock does not reach its deadline. -/
def CancelToken.derive? (token : CancelToken) (signals : Signals) :
    Derivation → Option CancelToken
  | .clone => some token
  | .withDeadline deadline => some (token.withDeadline deadline)
  | .withTimeout seconds => token.withTimeout? signals seconds

structure FamilyMember where
  token : CancelToken
  /-- The number of the member from which the token was made. The root has none. -/
  parent : Option Nat
  asked : Option Nat
deriving DecidableEq, Repr

/-- The tokens that have been made so far, numbered from the root on. -/
structure TokenFamily where
  signals : Signals
  members : List FamilyMember
deriving DecidableEq, Repr

namespace TokenFamily

/-- What can happen to a family. Checking a token changes nothing. -/
inductive Event where
  | derive (parent : Nat) (derivation : Derivation)
  | cancel (index : Nat)
  | pass (seconds : Nat)
deriving DecidableEq, Repr

def start (root : CancelToken) (signals : Signals) : TokenFamily where
  signals
  members := [{ token := root, parent := none, asked := root.deadline }]

def step? (family : TokenFamily) : Event → Option TokenFamily
  | .derive parent derivation => do
      let member ← family.members[parent]?
      let token ← member.token.derive? family.signals derivation
      let asked := derivation.deadline? family.signals
      return { family with members := family.members ++ [{ token, parent := some parent, asked }] }
  | .cancel index => do
      let member ← family.members[index]?
      return { family with signals := member.token.cancel family.signals }
  | .pass seconds =>
      some { family with signals := { family.signals with now := family.signals.now + seconds } }

def run? (family : TokenFamily) (events : List Event) : Option TokenFamily :=
  events.foldlM step? family

end TokenFamily

end PageSketch
