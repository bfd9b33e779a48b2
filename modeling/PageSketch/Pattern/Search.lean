import PageSketch.Pattern.Program

/-! # Searching

All ways through a program are followed at once, character by character, in the
order of preference. At one position no instruction is reached twice: a later way to
it could only repeat what an earlier one does. The search takes the leftmost
match, and of those that begin there the most preferred. -/

namespace PageSketch.Pattern

structure Surroundings where
  before : Option Char
  after : Option Char
deriving DecidableEq, Repr

namespace Assertion

def isWord (unicode : Bool) (character : Option Char) : Bool :=
  character.any fun character =>
    (if unicode then Unicode.Property.word else AsciiClass.word).contains character.toNat

def holds (around : Surroundings) : Assertion → Bool
  | .textStart => around.before = none
  | .textEnd => around.after = none
  | .lineStart => around.before = none || around.before = some '\n'
  | .lineEnd => around.after = none || around.after = some '\n'
  | .lineStartCr =>
      around.before = none || around.before = some '\n' ||
        (around.before = some '\r' && around.after ≠ some '\n')
  | .lineEndCr =>
      around.after = none || around.after = some '\r' ||
        (around.after = some '\n' && around.before ≠ some '\r')
  | .wordBoundary unicode => isWord unicode around.before != isWord unicode around.after
  | .notWordBoundary unicode => isWord unicode around.before == isWord unicode around.after
  | .wordStart unicode => !isWord unicode around.before && isWord unicode around.after
  | .wordEnd unicode => isWord unicode around.before && !isWord unicode around.after
  | .wordStartHalf unicode => !isWord unicode around.before
  | .wordEndHalf unicode => !isWord unicode around.after

end Assertion

/-- A stretch of a text, by the numbers of characters before its ends. -/
structure Span where
  start : Nat
  stop : Nat
deriving DecidableEq, Repr

/-- One way through a program. -/
structure Thread where
  place : Nat
  start : Nat
  /-- Where groups were opened, the latest first. -/
  opened : List (Nat × Nat) := []
  /-- What groups have captured, the latest first. -/
  captured : List (Nat × Span) := []
deriving DecidableEq, Repr

/-- The part of a text that a program matches, and what its groups captured. -/
structure Finding where
  whole : Span
  captured : List (Nat × Span)
deriving DecidableEq, Repr

namespace Search

/-- The threads that wait for a character or are done, the least preferred first,
and the positions at which each instruction was reached last. Positions are
counted from one here, so that zero means never. -/
structure Expansion where
  reached : Array Nat
  ready : List Thread := []

/-- Follows a thread up to the instructions that take a character. The bound is the
number of instructions. -/
def expand (program : Program) (around : Surroundings) (position : Nat) :
    Nat → Expansion → Thread → Expansion
  | 0, expansion, _ => expansion
  | bound + 1, expansion, thread =>
      if expansion.reached[thread.place]? = some (position + 1) then
        expansion
      else
        let marked : Expansion :=
          { expansion with
            reached := expansion.reached.setIfInBounds thread.place (position + 1) }
        let follow (thread : Thread) : Expansion :=
          expand program around position bound marked thread
        match program[thread.place]? with
        | some (.jump next) => follow { thread with place := next }
        | some (.split preferred other) =>
            expand program around position bound
              (follow { thread with place := preferred }) { thread with place := other }
        | some (.assertion assertion next) =>
            if assertion.holds around then follow { thread with place := next } else marked
        | some (.openGroup group next) =>
            follow { thread with place := next, opened := (group, position) :: thread.opened }
        | some (.closeGroup group next) =>
            let start := (thread.opened.lookup group).getD position
            follow { thread with
              place := next
              captured := (group, ⟨start, position⟩) :: thread.captured }
        | some (.one ..) | some .done => { marked with ready := thread :: marked.ready }
        | none => marked

/-- Lets threads take a character, the most preferred first, up to one that is done. -/
def advance (program : Program) (character : Option Char) :
    List Thread → List Thread × Option Thread
  | [] => ([], none)
  | thread :: rest =>
      match program[thread.place]? with
      | some .done => ([], some thread)
      | some (.one set next) =>
          let (threads, done) := advance program character rest
          if character.any fun character => set.contains character.toNat then
            ({ thread with place := next } :: threads, done)
          else
            (threads, done)
      | _ => advance program character rest

/-- The threads at a position. While nothing is found, a match may begin there. -/
def entering (position : Nat) (threads : List Thread) (found : Option Finding) : List Thread :=
  match found with
  | none => threads ++ [{ place := 0, start := position }]
  | some _ => threads

def scan (program : Program) (position : Nat) (before : Option Char) (reached : Array Nat)
    (threads : List Thread) (found : Option Finding) (text : List Char) : Option Finding :=
  let threads := entering position threads found
  if threads.isEmpty then
    found
  else
    let around : Surroundings := { before, after := text.head? }
    let expansion := threads.foldl (expand program around position (program.size + 1)) { reached }
    let (next, done) := advance program text.head? expansion.ready.reverse
    let found :=
      match done with
      | some thread => some { whole := ⟨thread.start, position⟩, captured := thread.captured }
      | none => found
    match text with
    | [] => found
    | character :: rest =>
        scan program (position + 1) (some character) expansion.reached next found rest

def find? (program : Program) (text : List Char) : Option Finding :=
  scan program 0 none (Array.replicate program.size 0) [] none text

end Search

end PageSketch.Pattern
