import PageSketch.Json.Token
import PageSketch.Pattern.AsciiClass
import PageSketch.Pattern.Flags
import PageSketch.Pattern.PropertyName

/-! # Escapes in patterns -/

namespace PageSketch.Pattern

open Unicode (CodeSet Property)

inductive Assertion where
  | textStart
  | textEnd
  | lineStart
  | lineEnd
  /-- Here lines may end with a carriage return too. -/
  | lineStartCr
  | lineEndCr
  | wordBoundary (unicode : Bool)
  | notWordBoundary (unicode : Bool)
  | wordStart (unicode : Bool)
  | wordEnd (unicode : Bool)
  | wordStartHalf (unicode : Bool)
  | wordEndHalf (unicode : Bool)
deriving DecidableEq, Repr

inductive Shorthand where
  | digit
  | space
  | word
deriving DecidableEq, Repr

inductive Primitive where
  /-- A character. If it is written with two hexadecimal digits it may also stand
  for a byte. -/
  | literal (code : Nat) (isByte : Bool)
  | shorthand (which : Shorthand) (negated : Bool)
  | property (set : CodeSet) (negated : Bool)
  | assertion (condition : Assertion)
deriving DecidableEq, Repr

namespace Escape

/-- Characters with a meaning of their own, which a backslash takes away. -/
def isMeta (character : Char) : Bool :=
  "\\.+*?()|[]\x7b\x7d^$#&-~".toList.contains character

/-- Characters that may stand behind a backslash without need. -/
def isEscapable (character : Char) : Bool :=
  isMeta character ||
    (character.toNat < 128 && !character.isAlphanum && character ≠ '<' && character ≠ '>')

def ofDigits? (digits : List Char) : Option Nat :=
  let code := digits.foldl (fun code digit => 16 * code + (Json.hexValue? digit).getD 0) 0
  if digits ≠ [] ∧ digits.all (fun digit => (Json.hexValue? digit).isSome)
      ∧ Nat.isValidChar code then
    some code
  else
    none

/-- Takes characters up to a closing brace, skipping what the flags allow. The
bound is the length of the text. -/
def takeBraced (flags : Flags) : Nat → List Char → Option (List Char × List Char)
  | 0, _ => none
  | bound + 1, text =>
      match flags.skip text with
      | [] => none
      | '\x7d' :: rest => some ([], rest)
      | character :: rest =>
          (takeBraced flags bound rest).map fun (taken, rest) => (character :: taken, rest)

def takeCount (flags : Flags) : Nat → List Char → Option (List Char × List Char)
  | 0, text => some ([], text)
  | count + 1, text =>
      match flags.skip text with
      | [] => none
      | character :: rest =>
          (takeCount flags count rest).map fun (taken, rest) => (character :: taken, rest)

/-- Reads a code point: so many digits, or any number of them in braces. -/
def readHex? (flags : Flags) (count : Nat) (text : List Char) :
    Option (Primitive × List Char) := do
  match flags.skip text with
  | '\x7b' :: rest =>
      let (digits, rest) ← takeBraced flags (rest.length + 1) rest
      return (.literal (← ofDigits? digits) false, flags.skip rest)
  | text =>
      let (digits, rest) ← takeCount flags count text
      return (.literal (← ofDigits? digits) (count = 2), flags.skip rest)

/-- Reads the name of a property: a letter, or a name in braces. -/
def readProperty? (flags : Flags) (negated : Bool) (text : List Char) :
    Option (Primitive × List Char) := do
  match flags.skip text with
  | '\x7b' :: rest =>
      let (name, rest) ← takeBraced flags (rest.length + 1) rest
      let (set, isUnequal) ← PropertyName.braced? name
      return (.property set (negated ^^ isUnequal), rest)
  | '\\' :: _ => none
  | letter :: rest =>
      return (.property (← PropertyName.named? letter.toString) negated, flags.skip rest)
  | [] => none

/-- The letters of which the names of special word boundaries are made. -/
def isBoundaryLetter (character : Char) : Bool := character.isAlpha || character = '-'

def takeLetters (flags : Flags) : Nat → List Char → List Char × List Char
  | 0, text => ([], text)
  | bound + 1, text =>
      match text with
      | character :: rest =>
          if isBoundaryLetter character then
            let (taken, rest) := takeLetters flags bound (flags.skip rest)
            (character :: taken, rest)
          else
            ([], text)
      | [] => ([], text)

/-- Reads what follows `\b`: nothing, or the kind of boundary in braces. Braces that
do not begin with a letter belong to a repetition. -/
def readBoundary? (flags : Flags) (text : List Char) : Option (Primitive × List Char) :=
  let plain : Primitive × List Char := (.assertion (.wordBoundary flags.unicode), text)
  match text with
  | '\x7b' :: rest =>
      match flags.skip rest with
      | [] => none
      | first :: rest =>
          if !isBoundaryLetter first then
            some plain
          else
            let (name, rest) := takeLetters flags (rest.length + 1) (first :: rest)
            let boundary :=
              match String.ofList name with
              | "start" => some (Assertion.wordStart flags.unicode)
              | "end" => some (.wordEnd flags.unicode)
              | "start-half" => some (.wordStartHalf flags.unicode)
              | "end-half" => some (.wordEndHalf flags.unicode)
              | _ => none
            match boundary, rest with
            | some boundary, '\x7d' :: rest => some (.assertion boundary, rest)
            | _, _ => none
  | _ => some plain

def read? (flags : Flags) : List Char → Option (Primitive × List Char)
  | [] => none
  | character :: rest =>
      if isEscapable character then
        some (.literal character.toNat false, rest)
      else
        match character with
        | 'x' => readHex? flags 2 rest
        | 'u' => readHex? flags 4 rest
        | 'U' => readHex? flags 8 rest
        | 'p' => readProperty? flags false rest
        | 'P' => readProperty? flags true rest
        | 'd' => some (.shorthand .digit false, rest)
        | 'D' => some (.shorthand .digit true, rest)
        | 's' => some (.shorthand .space false, rest)
        | 'S' => some (.shorthand .space true, rest)
        | 'w' => some (.shorthand .word false, rest)
        | 'W' => some (.shorthand .word true, rest)
        | 'a' => some (.literal 7 false, rest)
        | 't' => some (.literal 9 false, rest)
        | 'n' => some (.literal 10 false, rest)
        | 'v' => some (.literal 11 false, rest)
        | 'f' => some (.literal 12 false, rest)
        | 'r' => some (.literal 13 false, rest)
        | 'A' => some (.assertion .textStart, rest)
        | 'z' => some (.assertion .textEnd, rest)
        | 'b' => readBoundary? flags rest
        | 'B' => some (.assertion (.notWordBoundary flags.unicode), rest)
        | '<' => some (.assertion (.wordStart flags.unicode), rest)
        | '>' => some (.assertion (.wordEnd flags.unicode), rest)
        | _ => none

end Escape

namespace Shorthand

/-- The class of a shorthand, of Unicode or of unaccented text. -/
def codeSet (unicode : Bool) : Shorthand → CodeSet
  | .digit => if unicode then Property.digit else AsciiClass.digit
  | .space => if unicode then Unicode.whiteSpace else AsciiClass.space
  | .word => if unicode then Property.word else AsciiClass.word

end Shorthand

namespace Flags

def fold (flags : Flags) (set : CodeSet) : CodeSet :=
  if !flags.ignoreCase then set
  else if flags.unicode then set.withCaseVariants
  else AsciiClass.withBothCases set

def negateIf (negated : Bool) (set : CodeSet) : CodeSet :=
  if negated then set.complement else set

/-- Without Unicode a class consists of bytes; its complement would hold some
that are no characters on their own, and is refused. -/
def negate? (flags : Flags) (negated : Bool) (set : CodeSet) : Option CodeSet :=
  if negated ∧ !flags.unicode then none else some (negateIf negated set)

end Flags

end PageSketch.Pattern
