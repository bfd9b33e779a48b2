import PageSketch.Json.Basic
import PageSketch.Json.Token

/-! # Reading JSON values

Tokens are read one by one; arrays and objects that are not closed yet are kept
on a stack, whose height is limited. -/

namespace PageSketch.Json

/-- An array or object that is not closed yet, with what it holds so far, last
first. -/
inductive Frame (α : Type) where
  | array (items : List (Json α))
  | object (members : List (String × Json α))
  /-- An object after the name of a member. -/
  | member (members : List (String × Json α)) (name : String)

inductive Expected where
  | value
  /-- A value, or the end of an array that has none. -/
  | firstItem
  | name
  /-- A name, or the end of an object that has none. -/
  | firstName
  | colon
  /-- A comma, or the end of the array or object. -/
  | separator
deriving DecidableEq, Repr

inductive Reader (α : Type) where
  | reading (frames : List (Frame α)) (expected : Expected)
  | complete (value : Json α)

namespace Reader

variable {α : Type}

def deliver (value : Json α) : List (Frame α) → Option (Reader α)
  | [] => some (.complete value)
  | .array items :: rest => some (.reading (.array (value :: items) :: rest) .separator)
  | .member members name :: rest =>
      some (.reading (.object ((name, value) :: members) :: rest) .separator)
  | .object _ :: _ => none

/-- Opens an array or object if the stack is lower than `limit`. -/
def enter (limit : Nat) (frames : List (Frame α)) (frame : Frame α) (expected : Expected) :
    Option (Reader α) :=
  if frames.length < limit then some (.reading (frame :: frames) expected) else none

def readValue (limit : Nat) (frames : List (Frame α)) : Token α → Option (Reader α)
  | .null => deliver .null frames
  | .bool value => deliver (.bool value) frames
  | .integer value => deliver (.integer value) frames
  | .real value => deliver (.real value) frames
  | .text value => deliver (.text value) frames
  | .openArray => enter limit frames (.array []) .firstItem
  | .openObject => enter limit frames (.object []) .firstName
  | .closeArray | .closeObject | .comma | .colon => none

def readName : List (Frame α) → Token α → Option (Reader α)
  | .object members :: rest, .text name =>
      some (.reading (.member members name :: rest) .colon)
  | _, _ => none

def close : List (Frame α) → Token α → Option (Reader α)
  | .array items :: rest, .closeArray => deliver (.array items.reverse) rest
  | .object members :: rest, .closeObject => deliver (.object members.reverse) rest
  | _, _ => none

def readSeparator : List (Frame α) → Token α → Option (Reader α)
  | .array items :: rest, .comma => some (.reading (.array items :: rest) .value)
  | .object members :: rest, .comma => some (.reading (.object members :: rest) .name)
  | frames, token => close frames token

def step? (limit : Nat) : Reader α → Token α → Option (Reader α)
  | .complete _, _ => none
  | .reading frames .value, token => readValue limit frames token
  | .reading frames .firstItem, .closeArray => close frames .closeArray
  | .reading frames .firstItem, token => readValue limit frames token
  | .reading frames .name, token => readName frames token
  | .reading frames .firstName, .closeObject => close frames .closeObject
  | .reading frames .firstName, token => readName frames token
  | .reading frames .colon, .colon => some (.reading frames .value)
  | .reading _ .colon, _ => none
  | .reading frames .separator, token => readSeparator frames token

end Reader

def depthLimit : Nat := 127

/-- The value that a text stands for, if it is nested no deeper than `limit`. -/
def read? {α : Type} [Scalar α] (limit : Nat) (text : List Char) : Option (Json α) := do
  let tokens ← tokens? text
  match ← tokens.foldlM (Reader.step? limit) (.reading [] .value) with
  | .complete value => some value
  | .reading .. => none

def ofString? {α : Type} [Scalar α] (text : String) : Option (Json α) :=
  read? depthLimit text.toList

def ofBytes? {α : Type} [Scalar α] (bytes : ByteArray) : Option (Json α) :=
  (String.fromUTF8? bytes).bind ofString?

end PageSketch.Json
