import PageSketch.Pattern.Expr

/-! # Programs

An expression becomes a row of instructions which name the ones that follow them. An
expression takes `size` places; it is entered at its first place and left to a
place that is given. -/

namespace PageSketch.Pattern

open Unicode (CodeSet)

inductive Instruction where
  | one (set : CodeSet) (next : Nat)
  | assertion (condition : Assertion) (next : Nat)
  | jump (next : Nat)
  /-- Tries one way, then the other. -/
  | split (preferred other : Nat)
  | openGroup (group next : Nat)
  | closeGroup (group next : Nat)
  | done
deriving DecidableEq, Repr

namespace Expr

mutual

def size : Expr → Nat
  | .empty | .one _ | .assertion _ => 1
  | .literal codes => codes.length + 1
  | .sequence parts => partsSize parts
  | .choice alternatives => choiceSize alternatives
  | .repetition body least (some most) _ =>
      least * body.size + (most - least) * (body.size + 1) + 1
  | .repetition body 0 none _ => if body.consumes then body.size + 1 else body.size + 2
  | .repetition body least none _ => least * body.size + 1
  | .capture _ body => body.size + 2

def partsSize : List Expr → Nat
  | [] => 1
  | part :: rest => part.size + partsSize rest

def choiceSize : List Expr → Nat
  | [] => 1
  | alternative :: rest => alternative.size + choiceSize rest + 1

end

def literalCode (start next : Nat) : List Nat → List Instruction
  | [] => [.jump next]
  | code :: rest => .one (.single code) (start + 1) :: literalCode (start + 1) next rest

def branch (greedy : Bool) (body leave : Nat) : Instruction :=
  if greedy then .split body leave else .split leave body

mutual

/-- The instructions of an expression that begins at `start` and goes on to `next`. -/
def code (start next : Nat) : Expr → List Instruction
  | .empty => [.jump next]
  | .literal codes => literalCode start next codes
  | .one set => [.one set next]
  | .assertion condition => [.assertion condition next]
  | .sequence parts => partsCode start next parts
  | .choice alternatives => choiceCode start next alternatives
  | .capture group body =>
      let last := start + 1 + body.size
      .openGroup group (start + 1) :: (body.code (start + 1) last ++ [.closeGroup group next])
  | .repetition body least (some most) greedy =>
      let copies := (List.range least).flatMap fun index =>
        body.code (start + index * body.size) (start + (index + 1) * body.size)
      let first := start + least * body.size
      let width := body.size + 1
      let last := first + (most - least) * width
      let optional := (List.range (most - least)).flatMap fun index =>
        branch greedy (first + index * width + 1) last ::
          body.code (first + index * width + 1) (first + (index + 1) * width)
      copies ++ optional ++ [.jump next]
  | .repetition body 0 none greedy =>
      if body.consumes then
        branch greedy (start + 1) next :: body.code (start + 1) start
      else
        let again := start + 1 + body.size
        branch greedy (start + 1) next ::
          (body.code (start + 1) again ++ [branch greedy (start + 1) next])
  | .repetition body (least + 1) none greedy =>
      let copies := (List.range (least + 1)).flatMap fun index =>
        body.code (start + index * body.size) (start + (index + 1) * body.size)
      copies ++ [branch greedy (start + least * body.size) next]

def partsCode (start next : Nat) : List Expr → List Instruction
  | [] => [.jump next]
  | part :: rest =>
      let middle := start + part.size
      part.code start middle ++ partsCode middle next rest

/-- The instructions of alternatives. Behind the last one there is no way on. -/
def choiceCode (start next : Nat) : List Expr → List Instruction
  | [] => [.one .empty next]
  | alternative :: rest =>
      let other := start + 1 + alternative.size
      .split (start + 1) other ::
        (alternative.code (start + 1) next ++ choiceCode other next rest)

end

end Expr

abbrev Program := Array Instruction

def Expr.program (expr : Expr) : Program :=
  (expr.code 0 expr.size ++ [Instruction.done]).toArray

end PageSketch.Pattern
