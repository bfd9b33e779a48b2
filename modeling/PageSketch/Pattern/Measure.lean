import PageSketch.Pattern.Expr
import PageSketch.Pattern.Footprint

/-! # How much room expressions take

The byte program of an expression is made twice: one is followed forwards through a text
to find where a match ends, the other backwards to find where it begins. -/

namespace PageSketch.Pattern

open Unicode

inductive Direction where
  | forward
  | backward
deriving DecidableEq, Repr

namespace Expr

mutual

/-- Every match begins where a condition holds, as its first parts tell. -/
def startsWith (condition : Assertion) : Expr → Bool
  | .assertion other => other == condition
  | .sequence parts => partsStartWith condition parts
  | .choice alternatives => allStartWith condition alternatives
  | .repetition body least .. => 0 < least && body.startsWith condition
  | .capture _ body => body.startsWith condition
  | .empty | .literal _ | .one _ => false

def partsStartWith (condition : Assertion) : List Expr → Bool
  | [] => false
  | part :: rest =>
      part.startsWith condition || (part.isBlank && partsStartWith condition rest)

def allStartWith (condition : Assertion) : List Expr → Bool
  | [] => true
  | alternative :: rest => alternative.startsWith condition && allStartWith condition rest

end

mutual

def endsWith (condition : Assertion) : Expr → Bool
  | .assertion other => other == condition
  | .sequence parts => partsEndWith condition parts
  | .choice alternatives => allEndWith condition alternatives
  | .repetition body least .. => 0 < least && body.endsWith condition
  | .capture _ body => body.endsWith condition
  | .empty | .literal _ | .one _ => false

def partsEndWith (condition : Assertion) : List Expr → Bool
  | [] => false
  | part :: rest =>
      partsEndWith condition rest || (areBlank rest && part.endsWith condition)

def allEndWith (condition : Assertion) : List Expr → Bool
  | [] => true
  | alternative :: rest => alternative.endsWith condition && allEndWith condition rest

end

/-- The program need not look for the place where to begin. -/
def isAnchored (direction : Direction) (expr : Expr) : Bool :=
  match direction with
  | .forward => expr.startsWith .textStart
  | .backward => expr.endsWith .textEnd

def literalBytes (codes : List Nat) : List Nat := codes.flatMap utf8Bytes

def word? (direction : Direction) : Expr → Option (List Nat)
  | .literal codes =>
      match direction with
      | .forward => some (literalBytes codes)
      | .backward => some (literalBytes codes).reverse
  | _ => none

/-- Counts the states for a class. The bytes of unaccented characters are the ways on
of a single state. -/
def measureSet? (direction : Direction) (set : CodeSet) (footprint : Footprint) :
    Option Footprint :=
  if set.ranges.all (·.last ≤ 0x7f) then
    footprint.add? 2 (8 * set.ranges.length)
  else
    match direction with
    | .forward => footprint.forwardClass? set
    | .backward => footprint.backwardClass? set

mutual

/-- Counts the states for an expression. Groups are only told apart forwards. -/
def measure? (direction : Direction) : Expr → Footprint → Option Footprint
  | .empty, footprint | .assertion _, footprint => footprint.add? 1 0
  | .literal codes, footprint => footprint.add? (literalBytes codes).length 0
  | .one set, footprint => measureSet? direction set footprint
  | .sequence parts, footprint =>
      match direction with
      | .forward => measureParts? parts footprint
      | .backward => measurePartsBackward? parts footprint
  | .choice alternatives, footprint =>
      match alternatives.mapM (word? direction) with
      | some words => footprint.words? words
      | none => measureChoice? direction 0 alternatives footprint
  | .capture _ body, footprint =>
      match direction with
      | .forward => do (← body.measure? .forward (← footprint.add? 1 0)).add? 1 0
      | .backward => body.measure? .backward footprint
  | .repetition body 0 (some 1) _, footprint => do
      (← body.measure? direction (← footprint.add? 1 8)).add? 1 0
  | .repetition body 0 none _, footprint =>
      if body.consumes then do
        body.measure? direction (← footprint.add? 1 8)
      else do
        (← body.measure? direction footprint).add? 3 16
  | .repetition body (least + 1) none _, footprint => do
      (← footprint.times? (least + 1) (body.measure? direction)).add? 1 8
  | .repetition body least (some most) _, footprint => do
      let first ← if least = 0 then footprint.add? 1 0
        else footprint.times? least (body.measure? direction)
      if least = most then
        return first
      else
        (← first.add? 1 0).times? (most - least) fun footprint => do
          body.measure? direction (← footprint.add? 1 8)

def measureParts? : List Expr → Footprint → Option Footprint
  | [], footprint => some footprint
  | part :: rest, footprint => do measureParts? rest (← part.measure? .forward footprint)

def measurePartsBackward? : List Expr → Footprint → Option Footprint
  | [], footprint => some footprint
  | part :: rest, footprint => do
      part.measure? .backward (← measurePartsBackward? rest footprint)

/-- Counts alternatives, given how many were counted before. Behind the second one are
the state that leads to each, and the one to which all lead. -/
def measureChoice? (direction : Direction) (before : Nat) :
    List Expr → Footprint → Option Footprint
  | [], footprint => some footprint
  | alternative :: rest, footprint => do
      let footprint ← alternative.measure? direction footprint
      let footprint ←
        if before = 1 then footprint.add? 2 8
        else if 1 < before then footprint.add? 0 4
        else some footprint
      measureChoice? direction (before + 1) rest footprint

end

def searchFootprint? (direction : Direction) (expr : Expr) : Option Footprint :=
  let nothing : Footprint := {}
  if expr.isAnchored direction then nothing.add? 1 0 else nothing.add? 3 16

/-- The footprint of the program of an expression, if it keeps to the limit. The whole
match is a group that is told apart forwards. -/
def footprint? (direction : Direction) (expr : Expr) : Option Footprint := do
  let search ← searchFootprint? direction expr
  (← measure? direction (.capture 0 expr) search).add? 1 0

def fits (expr : Expr) : Bool :=
  (expr.footprint? .forward).isSome && (expr.footprint? .backward).isSome

end Expr

end PageSketch.Pattern
