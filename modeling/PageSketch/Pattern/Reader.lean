import PageSketch.Pattern.Bracket
import PageSketch.Pattern.Expr
import PageSketch.Unicode.Recent

/-! # Reading patterns

A pattern is read from left to right. Groups that are not closed yet are kept on a
stack, with the flags to return to when they are. -/

namespace PageSketch.Pattern

open Unicode

structure Item where
  expr : Expr
  /-- How deeply the part is nested. -/
  depth : Nat := 0
  /-- The part only sets flags. -/
  isFlags : Bool := false

def Item.sequence : List Item → Item
  | [] => { expr := .empty }
  | [item] => item
  | item :: rest =>
      { expr := .join ((item :: rest).map (·.expr))
        depth := rest.foldl (fun depth next => max depth next.depth) item.depth + 1 }

def Item.choice : List Item → Item
  | [] => { expr := .empty }
  | [item] => item
  | item :: rest =>
      { expr := .choose ((item :: rest).map (·.expr))
        depth := rest.foldl (fun depth next => max depth next.depth) item.depth + 1 }

/-- The inside of a group, or of the whole pattern, so far. -/
structure Level where
  /-- The alternatives before the current one, last first. -/
  alternatives : List Item := []
  /-- The parts of the current alternative, last first. -/
  items : List Item := []

namespace Level

def push (level : Level) (item : Item) : Level := { level with items := item :: level.items }

def alternate (level : Level) : Level where
  alternatives := .sequence level.items.reverse :: level.alternatives

def close (level : Level) : Item := .choice level.alternate.alternatives.reverse

end Level

structure OpenGroup where
  outer : Level
  /-- The number of a group that captures. -/
  capture : Option Nat
  /-- The flags behind the group. -/
  flags : Flags

structure Reader where
  groups : List OpenGroup := []
  level : Level := {}
  flags : Flags := {}
  /-- The names of the groups that capture, the last group first. -/
  names : List (Option String) := [none]

namespace Reader

/-! ## Repetitions -/

/-- Puts the last part under a repetition. -/
def repeatLast? (reader : Reader) (least : Nat) (most : Option Nat) (isLazy : Bool) :
    Option Reader :=
  match reader.level.items with
  | [] => none
  | item :: rest =>
      if item.isFlags then
        none
      else
        let greedy := isLazy == reader.flags.swapGreed
        let repeated : Item :=
          { expr := item.expr.repeated least most greedy, depth := item.depth + 1 }
        some { reader with level := { reader.level with items := repeated :: rest } }

def takeDigits (flags : Flags) : Nat → List Char → List Char × List Char
  | 0, text => ([], text)
  | bound + 1, text =>
      match text with
      | character :: rest =>
          if character.isDigit then
            let (taken, rest) := takeDigits flags bound (flags.skip rest)
            (character :: taken, rest)
          else
            ([], text)
      | [] => ([], text)

/-- Reads a count of 32 bits with blanks around it. -/
def readCount? (flags : Flags) (text : List Char) : Option (Nat × List Char) :=
  let (digits, rest) := takeDigits flags (text.length + 1) (text.dropWhile Text.isBlank)
  let count := digitsValue 0 digits
  if digits ≠ [] ∧ count < UInt32.size then some (count, rest.dropWhile Text.isBlank) else none

def readCounts? (flags : Flags) (text : List Char) :
    Option ((Nat × Option Nat) × List Char) := do
  let (least, rest) ← readCount? flags (flags.skip text)
  match rest with
  | '\x7d' :: rest => return ((least, some least), rest)
  | ',' :: rest =>
      match flags.skip rest with
      | '\x7d' :: rest => return ((least, none), rest)
      | rest =>
          let (most, rest) ← readCount? flags rest
          match rest with
          | '\x7d' :: rest => if least ≤ most then return ((least, some most), rest) else none
          | _ => none
  | _ => none

def readLazy : List Char → Bool × List Char
  | '?' :: rest => (true, rest)
  | rest => (false, rest)

def repeatMark? (reader : Reader) (least : Nat) (most : Option Nat) (text : List Char) :
    Option (Reader × List Char) :=
  let (isLazy, rest) := readLazy text
  (reader.repeatLast? least most isLazy).map (·, rest)

def repeatCounts? (reader : Reader) (text : List Char) : Option (Reader × List Char) := do
  let ((least, most), rest) ← readCounts? reader.flags text
  let (isLazy, rest) := readLazy (reader.flags.skip rest)
  return (← reader.repeatLast? least most isLazy, rest)

/-! ## Groups -/

def isNameChar (isFirst : Bool) (character : Char) : Bool :=
  let code := character.toNat
  character = '_' || Recent.alphabetic.contains code ||
    (!isFirst &&
      (Recent.numeric.contains code || character = '.' || character = '[' || character = ']'))

def readName? (text : List Char) : Option (String × List Char) :=
  match text.takeWhile (· ≠ '>'), text.dropWhile (· ≠ '>') with
  | first :: name, _ :: rest =>
      if isNameChar true first ∧ name.all (isNameChar false) then
        some (String.ofList (first :: name), rest)
      else
        none
  | _, _ => none

def enter (reader : Reader) (capture : Option Nat) (flags : Flags) : Reader :=
  { reader with
    groups := ⟨reader.level, capture, reader.flags⟩ :: reader.groups
    level := {}
    flags }

/-- Opens a group that captures. Names are used once. -/
def enterCapture? (reader : Reader) (name : Option String) : Option Reader :=
  if name.isSome ∧ reader.names.contains name then
    none
  else
    let opened := reader.enter (some reader.names.length) reader.flags
    some { opened with names := name :: reader.names }

/-- Reads letters of flags with what ends them: a colon opens a group, a closing
parenthesis sets the flags for the rest of the group around. -/
def readFlags? (reader : Reader) (text : List Char) : Option (Reader × List Char) := do
  let isEnd (character : Char) : Bool := character = ':' || character = ')'
  let letters := text.takeWhile (!isEnd ·)
  let flags ← reader.flags.update? letters
  match text.dropWhile (!isEnd ·) with
  | ':' :: rest => return (reader.enter none flags, rest)
  | ')' :: rest =>
      if letters.isEmpty then
        none
      else
        return ({ reader with
          level := reader.level.push { expr := .empty, isFlags := true }, flags }, rest)
  | _ => none

/-- Reads what follows an opening parenthesis. Looking around is not supported. -/
def openGroup? (reader : Reader) (text : List Char) : Option (Reader × List Char) :=
  match reader.flags.skip text with
  | '?' :: '=' :: _ | '?' :: '!' :: _ => none
  | '?' :: '<' :: '=' :: _ | '?' :: '<' :: '!' :: _ => none
  | '?' :: 'P' :: '<' :: rest | '?' :: '<' :: rest => do
      let (name, rest) ← readName? rest
      return (← reader.enterCapture? (some name), rest)
  | '?' :: rest => reader.readFlags? rest
  | rest => (reader.enterCapture? none).map (·, rest)

def closeGroup? (reader : Reader) : Option Reader :=
  match reader.groups with
  | [] => none
  | group :: rest =>
      let inside := reader.level.close
      let expr :=
        match group.capture with
        | some number => .capture number inside.expr
        | none => inside.expr
      some { reader with
        groups := rest
        level := group.outer.push { expr, depth := inside.depth + 1 }
        flags := group.flags }

/-! ## Single parts -/

/-- What a dot matches. It may be restricted to whole characters only. -/
def dot? (flags : Flags) : Option CodeSet :=
  if !flags.unicode then none
  else if flags.dotAll then some .all
  else if flags.carriageReturns then some (CodeSet.complement ⟨[⟨10, 10⟩, ⟨13, 13⟩]⟩)
  else some (CodeSet.single 10).complement

def startAssertion (flags : Flags) : Assertion :=
  if !flags.multiLine then .textStart
  else if flags.carriageReturns then .lineStartCr
  else .lineStart

def endAssertion (flags : Flags) : Assertion :=
  if !flags.multiLine then .textEnd
  else if flags.carriageReturns then .lineEndCr
  else .lineEnd

/-- What an escape or a character means on its own. A byte that is no character cannot
be matched. Without Unicode only letters without accents have two cases. -/
def primitive? (flags : Flags) : Primitive → Option Expr
  | .literal code isByte =>
      if !flags.unicode ∧ isByte ∧ 127 < code then none
      else some (.ofSet (flags.fold (.single code)))
  | .shorthand which negated => (flags.negate? negated (which.codeSet flags.unicode)).map .ofSet
  | .property set negated =>
      if flags.unicode then some (.ofSet (Flags.negateIf negated (flags.fold set))) else none
  | .assertion assertion => some (.assertion assertion)

def pushExpr (reader : Reader) (expr : Expr) : Reader :=
  { reader with level := reader.level.push { expr } }

def step? (reader : Reader) (character : Char) (rest : List Char) :
    Option (Reader × List Char) :=
  match character with
  | '(' => reader.openGroup? rest
  | ')' => reader.closeGroup?.map (·, rest)
  | '|' => some ({ reader with level := reader.level.alternate }, rest)
  | '[' => do
      let (closed, rest) ← Bracket.read? reader.flags rest
      let item : Item := { expr := .ofSet closed.set, depth := closed.depth }
      return ({ reader with level := reader.level.push item }, rest)
  | '?' => reader.repeatMark? 0 (some 1) rest
  | '*' => reader.repeatMark? 0 none rest
  | '+' => reader.repeatMark? 1 none rest
  | '\x7b' => reader.repeatCounts? rest
  | '.' => (dot? reader.flags).map fun set => (reader.pushExpr (.ofSet set), rest)
  | '^' => some (reader.pushExpr (.assertion (startAssertion reader.flags)), rest)
  | '$' => some (reader.pushExpr (.assertion (endAssertion reader.flags)), rest)
  | '\\' => do
      let (primitive, rest) ← Escape.read? reader.flags rest
      return (reader.pushExpr (← primitive? reader.flags primitive), rest)
  | literal => do
      let expr ← primitive? reader.flags (.literal literal.toNat false)
      return (reader.pushExpr expr, rest)

/-- Reads parts up to the end of the text. The bound is the length of the text. -/
def readAll? : Nat → Reader → List Char → Option Reader
  | 0, _, _ => none
  | bound + 1, reader, text =>
      match reader.flags.skip text with
      | [] => some reader
      | character :: rest =>
          match reader.step? character rest with
          | some (reader, rest) => readAll? bound reader rest
          | none => none

end Reader

/-- How deeply a pattern may be nested. -/
def nestLimit : Nat := 250

/-- The meaning of a pattern, with the names of all its groups. -/
def readExpr? (text : List Char) : Option (Expr × List (Option String)) := do
  let reader ← Reader.readAll? (text.length + 1) {} text
  let whole := reader.level.close
  if reader.groups.isEmpty ∧ whole.depth ≤ nestLimit then
    return (whole.expr, reader.names.reverse)
  else
    none

end PageSketch.Pattern
