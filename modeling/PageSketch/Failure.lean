import PageSketch.Text.Quoted

/-! # Failures

A failure is a tree. Its leaves are causes, each of one kind; inner nodes tell
where something failed, give a failure a further kind, or collect independent
failures. `kind` is what the root counts as and `is` asks for a kind anywhere. -/

namespace PageSketch

/-- What a failure is about. -/
inductive Kind where
  | incompleteConfig
  | badConfig
  | invalidRect
  | featureUnavailable
  | positionUnknown
  | invalidUnit
  | invalidTags
  | invalidPageRange
  | invalidPattern
  | document
  | cancelled
  | deadlineExceeded
  | threadPool
  | io
  | json
  | multiple
deriving DecidableEq, Repr

namespace Kind

def all : List Kind :=
  [.incompleteConfig, .badConfig, .invalidRect, .featureUnavailable, .positionUnknown,
    .invalidUnit, .invalidTags, .invalidPageRange, .invalidPattern, .document, .cancelled,
    .deadlineExceeded, .threadPool, .io, .json, .multiple]

theorem mem_all (kind : Kind) : kind ∈ all := by
  cases kind <;> decide

def title : Kind → String
  | .incompleteConfig => "incomplete configuration"
  | .badConfig => "bad configuration"
  | .invalidRect => "rectangle is invalid"
  | .featureUnavailable => "node feature unavailable"
  | .positionUnknown => "node position unknown"
  | .invalidUnit => "invalid length unit"
  | .invalidTags => "invalid tags"
  | .invalidPageRange => "invalid page range"
  | .invalidPattern => "invalid pattern"
  | .document => "document error"
  | .cancelled => "operation cancelled"
  | .deadlineExceeded => "deadline exceeded"
  | .threadPool => "thread pool error"
  | .io => "io error"
  | .json => "json error"
  | .multiple => "multiple errors"

end Kind

/-- A single thing that went wrong. Texts that depend on the system or on the
syntax of another language are not told further. -/
inductive Cause where
  | incompleteConfig (detail : String)
  | badConfig (detail : String)
  | invalidRect (detail : String)
  | featureUnavailable (detail : String)
  | positionUnknown (detail : String)
  | invalidUnit (unit : String)
  | invalidTags (detail : String)
  | invalidPageRange (detail : String)
  | invalidPattern (pattern : String)
  | document (detail : String)
  | cancelled
  | deadlineExceeded
  | threadPool (detail : String)
  | io
  | json
deriving DecidableEq, Repr, Inhabited

namespace Cause

def kind : Cause → Kind
  | .incompleteConfig _ => .incompleteConfig
  | .badConfig _ => .badConfig
  | .invalidRect _ => .invalidRect
  | .featureUnavailable _ => .featureUnavailable
  | .positionUnknown _ => .positionUnknown
  | .invalidUnit _ => .invalidUnit
  | .invalidTags _ => .invalidTags
  | .invalidPageRange _ => .invalidPageRange
  | .invalidPattern _ => .invalidPattern
  | .document _ => .document
  | .cancelled => .cancelled
  | .deadlineExceeded => .deadlineExceeded
  | .threadPool _ => .threadPool
  | .io => .io
  | .json => .json

def message : Cause → String
  | .incompleteConfig detail => "incomplete configuration: " ++ detail
  | .badConfig detail => "bad configuration: " ++ detail
  | .invalidRect detail => "rectangle is invalid: " ++ detail
  | .featureUnavailable detail => "node feature unavailable: " ++ detail
  | .positionUnknown detail => "node position unknown: " ++ detail
  | .invalidUnit unit => "invalid length unit " ++ Text.quoted unit
  | .invalidTags detail => "invalid tags: " ++ detail
  | .invalidPageRange detail => "invalid page range: " ++ detail
  | .invalidPattern pattern => "compiling pattern " ++ Text.quoted pattern ++ ": <regex error>"
  | .document detail => "document: " ++ detail
  | .cancelled => "operation cancelled"
  | .deadlineExceeded => "deadline exceeded"
  | .threadPool detail => "thread pool: " ++ detail
  | .io => "io error: <io error>"
  | .json => "json error: <json error>"

end Cause

/-- What went wrong, and where. -/
inductive Failure where
  | cause (leaf : Cause)
  | many (failures : List Failure)
  | within (place : String) (failure : Failure)
  /-- A failure at some place that also counts as one of `kind`. -/
  | classified (kind : Kind) (place : String) (failure : Failure)
deriving Inhabited

instance : Coe Cause Failure := ⟨.cause⟩

namespace Failure

/-- The outermost kind. Places do not change it. -/
def kind : Failure → Kind
  | .cause leaf => leaf.kind
  | .many _ => .multiple
  | .within _ failure => failure.kind
  | .classified kind _ _ => kind

mutual
/-- Whether some part of a failure is of a kind. -/
def is (asked : Kind) : Failure → Bool
  | .cause leaf => leaf.kind == asked
  | .many failures => asked == .multiple || anyIs asked failures
  | .within _ failure => failure.is asked
  | .classified kind _ failure => kind == asked || failure.is asked

def anyIs (asked : Kind) : List Failure → Bool
  | [] => false
  | failure :: rest => failure.is asked || anyIs asked rest
end

mutual
/-- The text of a failure, outermost place first. -/
def message : Failure → String
  | .cause leaf => leaf.message
  | .many failures => "; ".intercalate (messages failures)
  | .within place failure => place ++ ": " ++ failure.message
  | .classified kind place failure =>
      kind.title ++ ": " ++ place ++ ": " ++ failure.message

def messages : List Failure → List String
  | [] => []
  | failure :: rest => failure.message :: messages rest
end

/-- The outermost place, or the whole text if no place is told. -/
def headline : Failure → String
  | .within place _ => place
  | failure => failure.message

def inner? : Failure → Option Failure
  | .within _ failure => some failure
  | .cause _ | .many _ | .classified .. => none

/-- All failures as one; none if there is none. A single one stays as it is. -/
def combine : List Failure → Option Failure
  | [] => none
  | [failure] => some failure
  | failures => some (.many failures)

def checkAll (failures : List Failure) : Except Failure Unit :=
  match combine failures with
  | none => .ok ()
  | some failure => .error failure

def ofOutcome? {α : Type} : Except Failure α → Option Failure
  | .ok _ => none
  | .error failure => some failure

/-- All values if every outcome has one, else all failures as one. -/
def collect {α : Type} (outcomes : List (Except Failure α)) : Except Failure (List α) := do
  checkAll (outcomes.filterMap ofOutcome?)
  return outcomes.filterMap Except.toOption

def atPlace {α : Type} (place : String) (outcome : Except Failure α) : Except Failure α :=
  outcome.mapError (.within place)

end Failure

end PageSketch
