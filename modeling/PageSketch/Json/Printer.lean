import PageSketch.Json.Basic

/-! # Writing JSON values

`compact` has no white space; `pretty` puts every item and member on a line of its
own. How reals are written is left to the caller. -/

namespace PageSketch.Json

def stringChar : Char → String
  | '"' => "\\\""
  | '\\' => "\\\\"
  | '\x08' => "\\b"
  | '\x0c' => "\\f"
  | '\n' => "\\n"
  | '\r' => "\\r"
  | '\t' => "\\t"
  | character =>
      if character.toNat < 0x20 then
        let digits := String.ofList (Nat.toDigits 16 character.toNat)
        "\\u" ++ (if digits.length = 1 then "000" else "00") ++ digits
      else
        character.toString

def stringText (text : String) : String :=
  "\"" ++ String.join (text.toList.map stringChar) ++ "\""

variable {α : Type}

mutual
/-- A value without white space. -/
def compact (real : α → String) : Json α → String
  | .null => "null"
  | .bool true => "true"
  | .bool false => "false"
  | .integer value => toString value
  | .real value => real value
  | .text value => stringText value
  | .array items => "[" ++ ",".intercalate (compactItems real items) ++ "]"
  | .object members => "\x7b" ++ ",".intercalate (compactMembers real members) ++ "\x7d"

def compactItems (real : α → String) : List (Json α) → List String
  | [] => []
  | item :: rest => item.compact real :: compactItems real rest

def compactMembers (real : α → String) : List (String × Json α) → List String
  | [] => []
  | (name, value) :: rest =>
      (stringText name ++ ":" ++ value.compact real) :: compactMembers real rest
end

/-- Entries on lines of their own, between two marks. -/
def prettyBlock (opening closing : String) (indent : Nat) : List String → String
  | [] => opening ++ closing
  | entries =>
      let blanks (count : Nat) := String.ofList (List.replicate count ' ')
      opening ++ "\n" ++ blanks (indent + 2)
        ++ (",\n" ++ blanks (indent + 2)).intercalate entries
        ++ "\n" ++ blanks indent ++ closing

mutual
/-- A value over several lines, of which all but the first are indented. -/
def pretty (real : α → String) (indent : Nat) : Json α → String
  | .null => "null"
  | .bool true => "true"
  | .bool false => "false"
  | .integer value => toString value
  | .real value => real value
  | .text value => stringText value
  | .array items => prettyBlock "[" "]" indent (prettyItems real (indent + 2) items)
  | .object members =>
      prettyBlock "\x7b" "\x7d" indent (prettyMembers real (indent + 2) members)

def prettyItems (real : α → String) (indent : Nat) : List (Json α) → List String
  | [] => []
  | item :: rest => item.pretty real indent :: prettyItems real indent rest

def prettyMembers (real : α → String) (indent : Nat) : List (String × Json α) → List String
  | [] => []
  | (name, value) :: rest =>
      (stringText name ++ ": " ++ value.pretty real indent) :: prettyMembers real indent rest
end

end PageSketch.Json
