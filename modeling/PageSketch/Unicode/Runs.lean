import PageSketch.Unicode.CodeSet

/-! # Tables of code points

A property of characters is a table of runs: stretches of neighbouring code
points that share a label. In a table's text each run is its label, a fixed
number of letters, and its length in decimal, which is left out if it is one. -/

namespace PageSketch.Unicode

/-- Runs in increasing order: the first code point of each run and its label.
A run ends where the next one begins. -/
abbrev Runs := Array (Nat × List Char)

namespace Runs

structure Progress where
  done : Runs
  first : Nat
  label : List Char
  /-- Decimal digits of the current length read so far, as a number. -/
  length : Nat

def Progress.close (progress : Progress) : Progress :=
  if progress.label.isEmpty then
    progress
  else
    { done := progress.done.push (progress.first, progress.label)
      first := progress.first + max 1 progress.length
      label := []
      length := 0 }

def Progress.step (width : Nat) (progress : Progress) (character : Char) : Progress :=
  if character.isDigit then
    { progress with length := 10 * progress.length + (character.toNat - '0'.toNat) }
  else
    let ready := if progress.label.length < width then progress else progress.close
    { ready with label := ready.label ++ [character] }

/-- Reads a table whose labels have `width` letters. -/
def ofText (width : Nat) (text : String) : Runs :=
  (text.toList.foldl (Progress.step width) ⟨#[], 0, [], 0⟩).close.done

def wantedRanges (wanted : List Char → Bool) : List (Nat × List Char) → List CodeRange
  | [] => []
  | [(first, label)] => if wanted label then [⟨first, lastCode⟩] else []
  | (first, label) :: (next, nextLabel) :: rest =>
      let further := wantedRanges wanted ((next, nextLabel) :: rest)
      if wanted label then ⟨first, next - 1⟩ :: further else further

def select (wanted : List Char → Bool) (runs : Runs) : CodeSet :=
  .ofRanges (wantedRanges wanted runs.toList)

/-- The code points whose label is the letter of a value, for values with names. -/
def named? (runs : Runs) (values : List (Char × List String)) (name : String) : Option CodeSet :=
  (values.find? (·.2.contains name)).map fun (letter, _) => runs.select (· == [letter])

end Runs

/-- Reads a set from a table in which the label `y` marks what is in the set. -/
def CodeSet.ofText (text : String) : CodeSet := (Runs.ofText 1 text).select (· == ['y'])

end PageSketch.Unicode
