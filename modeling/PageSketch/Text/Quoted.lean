import PageSketch.Unicode.Recent

/-! # Quoted text

How messages quote names and texts: in double quotes, with everything escaped
that would not be seen as it is. -/

namespace PageSketch.Text

/-- A character that is seen as it is: it has a shape of its own and does not merge with
the one before it. -/
def isPrintable (character : Char) : Bool :=
  Unicode.Recent.printable.contains character.toNat &&
    !Unicode.Recent.graphemeExtend.contains character.toNat

/-- The escape that gives a character by its code point. -/
def codeEscape (character : Char) : List Char :=
  ['\\', 'u', '\x7b'] ++ Nat.toDigits 16 character.toNat ++ ['\x7d']

def quotedChar : Char → List Char
  | '"' => ['\\', '"']
  | '\\' => ['\\', '\\']
  | '\n' => ['\\', 'n']
  | '\r' => ['\\', 'r']
  | '\t' => ['\\', 't']
  | '\x00' => ['\\', '0']
  | character =>
      if isPrintable character then [character] else codeEscape character

def quoted (text : String) : String :=
  String.ofList ('"' :: text.toList.flatMap quotedChar ++ ['"'])

def quotedList (texts : List String) : String :=
  "[" ++ ", ".intercalate (texts.map quoted) ++ "]"

end PageSketch.Text
