import PageSketch.Decimal.Numeral
import PageSketch.Scalar.Basic

/-! # Tokens of JSON text

The text is read character by character. Strings are decoded as they are read;
everything else between marks and blanks is a word, which has to be a number, a
truth value or null. -/

namespace PageSketch.Json

inductive Token (α : Type) where
  | openArray
  | closeArray
  | openObject
  | closeObject
  | comma
  | colon
  | null
  | bool (value : Bool)
  | integer (value : Int)
  | real (value : α)
  | text (value : String)

namespace Token

/-! ## Words -/

/-- A whole number is kept as such if it fits into 64 bits, signed or not. Zero
with a minus does not count as whole. -/
def ofWhole? (negative : Bool) (magnitude : Nat) : Option Int :=
  if negative then
    if 0 < magnitude ∧ magnitude ≤ Nat.pow 2 63 then some (-magnitude) else none
  else if magnitude < UInt64.size then
    some magnitude
  else
    none

/-- At least one digit, and no zero before another digit. -/
def isWholePart (digits : List Char) : Bool :=
  match digits with
  | [] => false
  | '0' :: _ :: _ => false
  | _ => digits.all Char.isDigit

variable {α : Type} [Scalar α]

/-- A number that is neither infinite nor too large. -/
def ofNumeral? (numeral : Numeral) : Option (Token α) :=
  (Scalar.ofNumeral? numeral).map .real

/-- Reads a number. Its whole part needs a digit, and so does its fraction if
there is a point. -/
def ofNumber? (word : List Char) : Option (Token α) :=
  let negative := word.head? = some '-'
  let magnitude := if negative then word.tail else word
  let whole := magnitude.takeWhile Char.isDigit
  if !isWholePart whole then
    none
  else
    match magnitude.dropWhile Char.isDigit with
    | [] =>
        match ofWhole? negative (digitsValue 0 whole) with
        | some value => some (.integer value)
        | none => ofNumeral? (.decimal negative (digitsValue 0 whole) 0)
    | '.' :: rest =>
        if (rest.takeWhile Char.isDigit).isEmpty then
          none
        else
          (Numeral.readUnsigned? negative magnitude).bind ofNumeral?
    | _ => (Numeral.readUnsigned? negative magnitude).bind ofNumeral?

def ofWord? (word : List Char) : Option (Token α) :=
  match String.ofList word with
  | "null" => some .null
  | "true" => some (.bool true)
  | "false" => some (.bool false)
  | _ => ofNumber? word

end Token

/-! ## Strings -/

def hexValue? (digit : Char) : Option Nat :=
  if digit.isDigit then some (digit.toNat - '0'.toNat)
  else if 'a' ≤ digit ∧ digit ≤ 'f' then some (digit.toNat - 'a'.toNat + 10)
  else if 'A' ≤ digit ∧ digit ≤ 'F' then some (digit.toNat - 'A'.toNat + 10)
  else none

def escaped? : Char → Option Char
  | '"' => some '"'
  | '\\' => some '\\'
  | '/' => some '/'
  | 'b' => some '\x08'
  | 'f' => some '\x0c'
  | 'n' => some '\n'
  | 'r' => some '\r'
  | 't' => some '\t'
  | _ => none

/-- Where a string is being read. A code point above 16 bits is escaped in two
halves, the high one first. -/
inductive Escape where
  | none
  | started
  /-- Within the hexadecimal digits of an escape. -/
  | digits (count value : Nat) (high : Option Nat)
  /-- Between the two halves of a code point. -/
  | halved (high : Nat)
  /-- After the backslash that begins the second half. -/
  | halvedStarted (high : Nat)
deriving DecidableEq, Repr

inductive Progress where
  | inside (read : List Char) (escape : Escape)
  | closed (read : List Char)

/-- What a completed escape of four digits means, behind a high half or not. -/
def closeEscape? (read : List Char) (value : Nat) (high : Option Nat) : Option Progress :=
  let isHigh := 0xd800 ≤ value ∧ value < 0xdc00
  let isLow := 0xdc00 ≤ value ∧ value < 0xe000
  match high with
  | some high =>
      if isLow then
        let code := 0x10000 + (high - 0xd800) * 0x400 + (value - 0xdc00)
        some (.inside (Char.ofNat code :: read) .none)
      else
        none
  | none =>
      if isHigh then some (.inside read (.halved value))
      else if isLow then none
      else some (.inside (Char.ofNat value :: read) .none)

/-- Reads one more character of a string; what was read is kept last first. -/
def stepString? (read : List Char) (escape : Escape) (character : Char) : Option Progress :=
  match escape with
  | .none =>
      if character = '"' then some (.closed read)
      else if character = '\\' then some (.inside read .started)
      else if character.toNat < 0x20 then none
      else some (.inside (character :: read) .none)
  | .started =>
      if character = 'u' then
        some (.inside read (.digits 0 0 none))
      else
        (escaped? character).map fun meant => .inside (meant :: read) .none
  | .digits count value high =>
      (hexValue? character).bind fun digit =>
        let value := 16 * value + digit
        if count = 3 then closeEscape? read value high
        else some (.inside read (.digits (count + 1) value high))
  | .halved high => if character = '\\' then some (.inside read (.halvedStarted high)) else none
  | .halvedStarted high =>
      if character = 'u' then some (.inside read (.digits 0 0 (some high))) else none

/-! ## The text as a whole -/

/-- The token being read. Characters are kept last first. -/
inductive Current where
  | none
  | word (letters : List Char)
  | string (read : List Char) (escape : Escape)

/-- What has been read of a text: the complete tokens, last first, and the
beginning of the next one. -/
structure Lexer (α : Type) where
  tokens : List (Token α) := []
  current : Current := .none

namespace Lexer

variable {α : Type} [Scalar α]

def isBlank (character : Char) : Bool :=
  character = ' ' ∨ character = '\n' ∨ character = '\t' ∨ character = '\r'

def mark? : Char → Option (Token α)
  | '[' => some .openArray
  | ']' => some .closeArray
  | '\x7b' => some .openObject
  | '\x7d' => some .closeObject
  | ',' => some .comma
  | ':' => some .colon
  | _ => none

/-- Completes a word. Strings have to be closed by a quote. -/
def close? (lexer : Lexer α) : Option (List (Token α)) :=
  match lexer.current with
  | .none => some lexer.tokens
  | .word letters => (Token.ofWord? letters.reverse).map (· :: lexer.tokens)
  | .string .. => none

def step? (lexer : Lexer α) (character : Char) : Option (Lexer α) :=
  match lexer.current with
  | .string read escape =>
      (stepString? read escape character).map fun progress =>
        match progress with
        | .inside read escape => { lexer with current := .string read escape }
        | .closed read => { tokens := .text (String.ofList read.reverse) :: lexer.tokens }
  | current =>
      if character = '"' then
        lexer.close?.map fun tokens => { tokens, current := .string [] .none }
      else if isBlank character then
        lexer.close?.map fun tokens => { tokens }
      else
        match mark? character with
        | some mark => lexer.close?.map fun tokens => { tokens := mark :: tokens }
        | none =>
            match current with
            | .word letters => some { lexer with current := .word (character :: letters) }
            | _ => some { lexer with current := .word [character] }

end Lexer

def tokens? {α : Type} [Scalar α] (text : List Char) : Option (List (Token α)) :=
  ((text.foldlM Lexer.step? ({} : Lexer α)).bind Lexer.close?).map List.reverse

end PageSketch.Json
