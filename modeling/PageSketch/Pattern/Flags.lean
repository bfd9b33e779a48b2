import PageSketch.Text.Blank

/-! # Flags of patterns

Flags change how the rest of a group is read. -/

namespace PageSketch.Pattern

structure Flags where
  /-- Characters match whatever their case. -/
  ignoreCase : Bool := false
  /-- `^` and `$` match at the ends of lines. -/
  multiLine : Bool := false
  /-- `.` matches line ends too. -/
  dotAll : Bool := false
  /-- Repetitions are lazy unless marked. -/
  swapGreed : Bool := false
  /-- Classes are those of Unicode. -/
  unicode : Bool := true
  /-- Lines may end with a carriage return too. -/
  carriageReturns : Bool := false
  /-- Blanks and comments in the pattern are skipped. -/
  extended : Bool := false
deriving DecidableEq, Repr

namespace Flags

def set? (flags : Flags) (value : Bool) : Char → Option Flags
  | 'i' => some { flags with ignoreCase := value }
  | 'm' => some { flags with multiLine := value }
  | 's' => some { flags with dotAll := value }
  | 'U' => some { flags with swapGreed := value }
  | 'u' => some { flags with unicode := value }
  | 'R' => some { flags with carriageReturns := value }
  | 'x' => some { flags with extended := value }
  | _ => none

/-- The flags after the letters of a group. Letters behind a dash unset their flag.
No letter may occur twice, and at most one dash, not as the last. -/
def update? (flags : Flags) (letters : List Char) : Option Flags :=
  if letters.Nodup ∧ letters.getLast? ≠ some '-' then
    let on := letters.takeWhile (· ≠ '-')
    let off := (letters.dropWhile (· ≠ '-')).drop 1
    (on.foldlM (fun flags letter => set? flags true letter) flags).bind fun flags =>
      off.foldlM (fun flags letter => set? flags false letter) flags
  else
    none

example : (Flags.update? {} ['i', '-', 's']).map (·.ignoreCase) = some true := rfl

/-- Skips blanks and comments; within a comment up to the end of the line. -/
def skipSpace (inComment : Bool) : List Char → List Char
  | [] => []
  | character :: rest =>
      if inComment then
        skipSpace (character ≠ '\n') rest
      else if Text.isBlank character then
        skipSpace false rest
      else if character = '#' then
        skipSpace true rest
      else
        character :: rest

def skip (flags : Flags) (text : List Char) : List Char :=
  if flags.extended then skipSpace false text else text

end Flags

end PageSketch.Pattern
