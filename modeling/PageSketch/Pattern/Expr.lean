import PageSketch.Pattern.Escape

/-! # Expressions

What a pattern means, with all flags resolved. Groups that capture keep their
number; all others leave no trace. Expressions are kept simple while they are put
together: `join` and `choose` take sequences and choices apart that stand directly in
others of their kind, and join what can be one literal or one class. -/

namespace PageSketch.Pattern

open Unicode (CodeRange CodeSet)

inductive Expr where
  | empty
  /-- Characters one after the other, at least one. -/
  | literal (codes : List Nat)
  | one (set : CodeSet)
  | assertion (condition : Assertion)
  | sequence (parts : List Expr)
  /-- One of several, of which the earlier ones are preferred. -/
  | choice (alternatives : List Expr)
  /-- From `least` to `most` copies; more are preferred if greedy, else fewer. -/
  | repetition (body : Expr) (least : Nat) (most : Option Nat) (greedy : Bool)
  | capture (group : Nat) (body : Expr)

namespace Expr

/-! ## What expressions match -/

mutual

/-- The expression matches nothing but the empty text. -/
def isBlank : Expr → Bool
  | .empty | .assertion _ => true
  | .literal _ | .one _ => false
  | .sequence parts => areBlank parts
  | .choice alternatives => areBlank alternatives
  | .repetition body .. => body.isBlank
  | .capture _ body => body.isBlank

def areBlank : List Expr → Bool
  | [] => true
  | expr :: rest => expr.isBlank && areBlank rest

end

mutual

/-- The fewest characters that are matched. There is no such number where an empty
class stands in the way. -/
def leastLength? : Expr → Option Nat
  | .empty | .assertion _ => some 0
  | .literal codes => some codes.length
  | .one set => if set.isEmpty then none else some 1
  | .sequence parts => totalLength? parts
  | .choice alternatives => shortestLength? alternatives
  | .repetition body least .. => body.leastLength?.map (least * ·)
  | .capture _ body => body.leastLength?

def totalLength? : List Expr → Option Nat
  | [] => some 0
  | part :: rest =>
      match part.leastLength?, totalLength? rest with
      | some length, some further => some (length + further)
      | _, _ => none

def shortestLength? : List Expr → Option Nat
  | [] => none
  | [last] => last.leastLength?
  | alternative :: next :: rest =>
      match alternative.leastLength?, shortestLength? (next :: rest) with
      | some length, some other => some (min length other)
      | _, _ => none

end

def consumes (expr : Expr) : Bool := expr.leastLength?.any (0 < ·)

mutual

def groups : Expr → List Nat
  | .empty | .literal _ | .one _ | .assertion _ => []
  | .sequence parts => allGroups parts
  | .choice alternatives => allGroups alternatives
  | .repetition body .. => body.groups
  | .capture group body => group :: body.groups

def allGroups : List Expr → List Nat
  | [] => []
  | expr :: rest => expr.groups ++ allGroups rest

end

mutual

def nodes : Expr → Nat
  | .empty | .literal _ | .one _ | .assertion _ => 1
  | .sequence parts => allNodes parts + 1
  | .choice alternatives => allNodes alternatives + 1
  | .repetition body .. => body.nodes + 1
  | .capture _ body => body.nodes + 1

def allNodes : List Expr → Nat
  | [] => 0
  | expr :: rest => expr.nodes + allNodes rest

end

mutual

def same : Expr → Expr → Bool
  | .empty, .empty => true
  | .literal a, .literal b => a == b
  | .one a, .one b => a == b
  | .assertion a, .assertion b => a == b
  | .sequence a, .sequence b => sameAll a b
  | .choice a, .choice b => sameAll a b
  | .repetition a least most greedy, .repetition b least' most' greedy' =>
      a.same b && least == least' && most == most' && greedy == greedy'
  | .capture group a, .capture group' b => group == group' && a.same b
  | _, _ => false

def sameAll : List Expr → List Expr → Bool
  | [], [] => true
  | a :: rest, b :: rest' => a.same b && sameAll rest rest'
  | _, _ => false

end

/-! ## Putting expressions together -/

/-- One character of a class; a class of one character is a literal. -/
def ofSet (set : CodeSet) : Expr :=
  match set.ranges with
  | [range] => if range.first = range.last then .literal [range.first] else .one set
  | _ => .one set

def parts : Expr → List Expr
  | .empty => []
  | .sequence parts => parts
  | expr => [expr]

/-- Puts a part before others. Literals that meet become one. -/
def prepend (part : Expr) (rest : List Expr) : List Expr :=
  match part, rest with
  | .literal codes, .literal further :: rest => .literal (codes ++ further) :: rest
  | _, _ => part :: rest

def join (exprs : List Expr) : Expr :=
  match (exprs.flatMap parts).foldr prepend [] with
  | [] => .empty
  | [part] => part
  | parts => .sequence parts

def alternatives : Expr → List Expr
  | .choice alternatives => alternatives
  | expr => [expr]

def character? : Expr → Option CodeSet
  | .literal [code] => some (.single code)
  | _ => none

def class? : Expr → Option CodeSet
  | .one set => some set
  | _ => none

/-- The class that stands for a choice between characters, or between classes. -/
def combined? (alternatives : List Expr) : Option Expr :=
  ((alternatives.mapM character?).or (alternatives.mapM class?)).map fun sets =>
    ofSet (.unionAll sets)

def commonParts : List Expr → List Expr → List Expr
  | a :: rest, b :: rest' => if a.same b then a :: commonParts rest rest' else []
  | _, _ => []

def sequence? : Expr → Option (List Expr)
  | .sequence parts => some parts
  | _ => none

/-- The parts with which all alternatives begin, if they are sequences with a common
beginning, and how each goes on. -/
def commonStart? (alternatives : List Expr) : Option (List Expr × List Expr) :=
  match alternatives.mapM sequence? with
  | some (first :: rest) =>
      match rest.foldl commonParts first with
      | [] => none
      | shared =>
          some (shared, (first :: rest).map fun parts => join (parts.drop shared.length))
  | _ => none

/-- A choice between expressions. The bound is on how often a common beginning is
taken out. -/
def chooseWithin : Nat → List Expr → Expr
  | 0, exprs => .choice exprs
  | bound + 1, exprs =>
      match exprs.flatMap alternatives with
      | [alternative] => alternative
      | alternatives =>
          match combined? alternatives, commonStart? alternatives with
          | some expr, _ => expr
          | none, some (shared, rest) => join (shared ++ [chooseWithin bound rest])
          | none, none => .choice alternatives

/-- A choice between expressions. Each common beginning that is taken out is a part less. -/
def choose (exprs : List Expr) : Expr := chooseWithin (allNodes exprs + 1) exprs

/-- A repetition. What matches only the empty text need not be repeated; no copy is the
empty expression, and one copy the body itself. -/
def repeated (body : Expr) (least : Nat) (most : Option Nat) (greedy : Bool) : Expr :=
  let blank := body.isBlank
  let least := if blank then min least 1 else least
  let most := if blank then some (min (most.getD 1) 1) else most
  if least = 0 ∧ most = some 0 then .empty
  else if least = 1 ∧ most = some 1 then body
  else .repetition body least most greedy

example : join [.literal [97], .empty, join [.literal [98], .one .all]] =
    .sequence [.literal [97, 98], .one .all] := rfl

end Expr

end PageSketch.Pattern
