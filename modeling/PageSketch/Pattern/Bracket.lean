import PageSketch.Pattern.Escape

/-! # Classes in brackets

Classes may be nested and combined by `&&`, `--` and `~~`, all of which bind
weaker than putting items side by side and are read from the left. -/

namespace PageSketch.Pattern

open Unicode (CodeSet)

inductive ClassOperation where
  | intersection
  | difference
  | symmetricDifference
deriving DecidableEq, Repr

/-- A class with the depth to which its parts are nested. -/
structure NestedClass where
  set : CodeSet
  depth : Nat
deriving DecidableEq, Repr

structure ClassItems where
  set : CodeSet := .empty
  count : Nat := 0
  depth : Nat := 0
deriving DecidableEq, Repr

namespace ClassItems

def add (items : ClassItems) (item : NestedClass) : ClassItems where
  set := items.set.union item.set
  count := items.count + 1
  depth := max items.depth item.depth

/-- All items as one; several are nested once more. -/
def close (items : ClassItems) : NestedClass where
  set := items.set
  depth := if 2 ≤ items.count then items.depth + 1 else items.depth

end ClassItems

/-- What has been begun and not ended inside of a class. -/
inductive PendingClass where
  /-- A bracket, with the items before it. -/
  | opened (outer : ClassItems) (negated : Bool)
  /-- An operation, with what stands to the left of it. -/
  | operation (kind : ClassOperation) (left : NestedClass)

namespace Bracket

/-- The class of one item. Without Unicode only bytes that are characters may be in it. -/
def itemClass? (flags : Flags) : Primitive → Option CodeSet
  | .literal code _ => if flags.unicode ∨ code ≤ 127 then some (.single code) else none
  | .shorthand which negated => flags.negate? negated (which.codeSet flags.unicode)
  | .property set negated =>
      if flags.unicode then some (Flags.negateIf negated (flags.fold set)) else none
  | .assertion _ => none

/-- The class of a range between two items, which have to be characters in order. -/
def rangeClass? (flags : Flags) (first last : Primitive) : Option CodeSet := do
  let _ ← itemClass? flags first
  let _ ← itemClass? flags last
  match first, last with
  | .literal first _, .literal last _ => if first ≤ last then some (.range first last) else none
  | _, _ => none

def readItem? (flags : Flags) : List Char → Option (Primitive × List Char)
  | '\\' :: rest => Escape.read? flags rest
  | character :: rest => some (.literal character.toNat false, rest)
  | [] => none

/-- The character behind a dash that decides whether it makes a range. -/
def afterDash? (flags : Flags) (text : List Char) : Option Char :=
  let ahead := text.dropWhile Text.isBlank
  let ahead := if ahead.head? = some '#' then ahead.tail.dropWhile Text.isBlank else ahead
  if flags.extended then ahead.head?.or text.head? else text.head?

def readRange? (flags : Flags) (text : List Char) : Option (CodeSet × List Char) := do
  let (first, rest) ← readItem? flags text
  match flags.skip rest with
  | [] => none
  | '-' :: rest =>
      if afterDash? flags rest = some ']' ∨ afterDash? flags rest = some '-' then
        return (← itemClass? flags first, '-' :: rest)
      else
        let (last, rest) ← readItem? flags (flags.skip rest)
        return (← rangeClass? flags first last, rest)
  | rest => return (← itemClass? flags first, rest)

/-- Reads a class with a name between colons, as in `[:alpha:]`, or `[:^alpha:]` for all
that is not in it. -/
def readPosix? : List Char → Option ((CodeSet × Bool) × List Char)
  | '[' :: ':' :: rest =>
      let negated := rest.head? = some '^'
      let text := if negated then rest.tail else rest
      match AsciiClass.named? (String.ofList (text.takeWhile (· ≠ ':'))),
          text.dropWhile (· ≠ ':') with
      | some set, ':' :: ']' :: rest => some ((set, negated), rest)
      | _, _ => none
  | _ => none

def readDashes (flags : Flags) : Nat → ClassItems → List Char → ClassItems × List Char
  | 0, items, text => (items, text)
  | bound + 1, items, text =>
      match text with
      | '-' :: rest => readDashes flags bound (items.add ⟨.single 45, 0⟩) (flags.skip rest)
      | _ => (items, text)

/-- Reads what may stand behind an opening bracket only: a circumflex, then dashes,
or a closing bracket that stands for itself. -/
def readOpening (flags : Flags) (text : List Char) : Bool × ClassItems × List Char :=
  let text := flags.skip text
  let negated := text.head? = some '^'
  let text := if negated then flags.skip text.tail else text
  let (items, text) := readDashes flags text.length {} text
  if items.count = 0 ∧ text.head? = some ']' then
    (negated, items.add ⟨.single 93, 0⟩, flags.skip text.tail)
  else
    (negated, items, text)

def combine (flags : Flags) (kind : ClassOperation) (left right : NestedClass) : NestedClass :=
  let a := flags.fold left.set
  let b := flags.fold right.set
  { set :=
      match kind with
      | .intersection => a.intersection b
      | .difference => a.difference b
      | .symmetricDifference => a.symmetricDifference b
    depth := max left.depth right.depth + 1 }

def settle (flags : Flags) (pending : List PendingClass) (right : NestedClass) :
    List PendingClass × NestedClass :=
  match pending with
  | .operation kind left :: rest => (rest, combine flags kind left right)
  | _ => (pending, right)

def operation? : List Char → Option (ClassOperation × List Char)
  | '&' :: '&' :: rest => some (.intersection, rest)
  | '-' :: '-' :: rest => some (.difference, rest)
  | '~' :: '~' :: rest => some (.symmetricDifference, rest)
  | _ => none

/-- Reads the inside of brackets up to the one that closes the outermost. The bound
is the length of the text. -/
def readInside? (flags : Flags) :
    Nat → List PendingClass → ClassItems → List Char → Option (NestedClass × List Char)
  | 0, _, _, _ => none
  | bound + 1, pending, items, text =>
      match flags.skip text with
      | [] => none
      | '[' :: rest =>
          match readPosix? ('[' :: rest) with
          | some ((set, negated), rest) =>
              (flags.negate? negated (flags.fold set)).bind fun set =>
                readInside? flags bound pending (items.add ⟨set, 0⟩) rest
          | none =>
              let (negated, inner, rest) := readOpening flags rest
              readInside? flags bound (.opened items negated :: pending) inner rest
      | ']' :: rest =>
          match settle flags pending items.close with
          | (.opened outer negated :: pending, inner) =>
              (flags.negate? negated (flags.fold inner.set)).bind fun set =>
                let closed : NestedClass := ⟨set, inner.depth + 1⟩
                if pending.isEmpty then some (closed, rest)
                else readInside? flags bound pending (outer.add closed) rest
          | _ => none
      | text =>
          match operation? text with
          | some (kind, rest) =>
              let (pending, left) := settle flags pending items.close
              readInside? flags bound (.operation kind left :: pending) {} rest
          | none =>
              match readRange? flags text with
              | some (set, rest) => readInside? flags bound pending (items.add ⟨set, 0⟩) rest
              | none => none

def read? (flags : Flags) (text : List Char) : Option (NestedClass × List Char) :=
  let (negated, items, rest) := readOpening flags text
  readInside? flags (rest.length + 1) [.opened {} negated] items rest

end Bracket

end PageSketch.Pattern
