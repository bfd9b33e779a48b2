import PageSketch.Failure
import PageSketch.Pattern.Measure
import PageSketch.Pattern.Reader
import PageSketch.Pattern.Search
import PageSketch.Text.Bytes

/-! # Patterns and their matches

A match has one entry for every group of its pattern; the first is the whole match.
Positions are told in bytes of the text in UTF-8. -/

namespace PageSketch

structure Pattern where
  source : String
  expr : Pattern.Expr
  /-- The names of all groups, the whole match first. -/
  names : List (Option String)
  program : Pattern.Program

namespace Pattern

/-- The names of the groups that are left in an expression. -/
def groupNames (expr : Expr) (names : List (Option String)) : List (Option String) :=
  let groups := expr.groups
  (List.range (groups.foldl max 0 + 1)).map fun group =>
    if groups.contains group then (names[group]?).join else none

def read? (source : String) : Option Pattern := do
  let (expr, names) ← readExpr? source.toList
  if expr.fits then
    return { source, expr, names := groupNames expr names, program := expr.program }
  else
    none

def compile (source : String) : Except Failure Pattern :=
  match read? source with
  | some pattern => .ok pattern
  | none => .error (.cause (.invalidPattern source))

end Pattern

structure MatchGroup where
  /-- Empty unless the group has a name. -/
  name : String
  /-- The captured bytes, if the group took part in the match. -/
  span : Option Pattern.Span
  /-- The captured text, empty if there is none. -/
  text : String
deriving DecidableEq, Repr

namespace MatchGroup

def isCaptured (group : MatchGroup) : Bool := group.span.isSome

/-- The first byte of the group, or -1 if it was not captured. -/
def start (group : MatchGroup) : Int := group.span.elim (-1) fun span => span.start

def stop (group : MatchGroup) : Int := group.span.elim (-1) fun span => span.stop

end MatchGroup

/-- The first match of a pattern in a text. -/
structure PatternMatch where
  pattern : Pattern
  text : String
  /-- What each group captured, in characters. -/
  spans : List (Option Pattern.Span)

namespace PatternMatch

def evaluate? (pattern : Pattern) (text : String) : Option PatternMatch :=
  (Pattern.Search.find? pattern.program text.toList).map fun finding =>
    { pattern, text
      spans := some finding.whole ::
        (List.range (pattern.names.length - 1)).map fun index =>
          finding.captured.lookup (index + 1) }

def byteOffset (text : List Char) (count : Nat) : Nat := Text.byteLength (text.take count)

def slice (text : List Char) (span : Pattern.Span) : List Char :=
  (text.drop span.start).take (span.stop - span.start)

def size (found : PatternMatch) : Nat := found.spans.length

/-- The bytes that a group captured. -/
def span? (found : PatternMatch) (index : Nat) : Option Pattern.Span :=
  ((found.spans[index]?).join).map fun span =>
    ⟨byteOffset found.text.toList span.start, byteOffset found.text.toList span.stop⟩

def group? (found : PatternMatch) (index : Nat) : Option MatchGroup :=
  (found.spans[index]?).map fun span =>
    { name := ((found.pattern.names[index]?).join).getD ""
      span := found.span? index
      text := span.elim "" fun span => String.ofList (slice found.text.toList span) }

/-- The group with a name; without a name, the whole match. -/
def named? (found : PatternMatch) (name : String) : Option MatchGroup :=
  if name.isEmpty then
    found.group? 0
  else
    (found.pattern.names.findIdx? (· = some name)).bind found.group?

def groups (found : PatternMatch) : List MatchGroup :=
  (List.range found.size).filterMap found.group?

end PatternMatch

end PageSketch
