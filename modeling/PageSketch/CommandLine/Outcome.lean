import PageSketch.CommandLine.Arguments
import PageSketch.Document

/-! # Outcomes of commands

A command reads files and looks at the world. Files are told by their contents; those
that cannot be read have none. -/

namespace PageSketch.CommandLine

/-- What a command asks of the world. -/
structure World (m : Type → Type) where
  contents : String → m (Option ByteArray)
  look : m Signals

/-- What a command sees of the world, told in advance. -/
structure Surroundings where
  contents : String → Option ByteArray
  timeline : Timeline

def Surroundings.world (surroundings : Surroundings) : World (StateM Timeline) where
  contents path := return surroundings.contents path
  look := Timeline.look

inductive Outcome (α : Type) where
  | printed (output : Json α)
  | written (path : String) (output : Json α)
  | failed (failure : Failure)
  /-- A deadline is later than any time that the clock can tell. -/
  | beyondClock

namespace Outcome

def ofExcept {α : Type} : Except Failure (Outcome α) → Outcome α
  | .ok outcome => outcome
  | .error failure => .failed failure

def creationFailure (path : String) : Failure :=
  .within ("creating output file " ++ path) (.cause .io)

end Outcome

/-! ## Values of options -/

/-- Reads the path of a file. It cannot be empty. -/
def readPath? (text : String) : Option String := if text.isEmpty then none else some text

/-- Reads a whole number of 64 bits. -/
def readNumber? (text : String) : Option Nat :=
  (PageRange.readNumber? text.toList).map (·.val)

def readRange? (text : String) : Option PageRange := (PageRange.read text).toOption

def readLength? {α : Type} [Scalar α] (text : String) : Option (Length α) :=
  (Length.read text).toOption

end PageSketch.CommandLine
