import PageSketch.Unicode.WhiteSpace

/-! # Blank text

Blank characters are those of Unicode white space. -/

namespace PageSketch.Text

def isBlank (character : Char) : Bool :=
  Unicode.isWhiteSpace character.toNat

def dropEndWhile (drop : Char → Bool) (text : List Char) : List Char :=
  (text.reverse.dropWhile drop).reverse

def takeEndWhile (take : Char → Bool) (text : List Char) : List Char :=
  (text.reverse.takeWhile take).reverse

theorem dropEndWhile_append_takeEndWhile (p : Char → Bool) (text : List Char) :
    dropEndWhile p text ++ takeEndWhile p text = text := by
  rw [dropEndWhile, takeEndWhile, ← List.reverse_append, List.takeWhile_append_dropWhile,
    List.reverse_reverse]

def trim (text : List Char) : List Char :=
  dropEndWhile isBlank (text.dropWhile isBlank)

def trimmed (text : String) : String :=
  String.ofList (trim text.toList)

example : trim [' ', 'a', ' ', 'b', '\u00a0', '\n'] = ['a', ' ', 'b'] := by decide

end PageSketch.Text
