import PageSketch.Unicode.CodeSet

/-! # Classes of unaccented text -/

namespace PageSketch.Pattern.AsciiClass

open Unicode

def digit : CodeSet := .range 48 57

def space : CodeSet := ⟨[⟨9, 13⟩, ⟨32, 32⟩]⟩

def letter : CodeSet := ⟨[⟨65, 90⟩, ⟨97, 122⟩]⟩

def word : CodeSet := ⟨[⟨48, 57⟩, ⟨65, 90⟩, ⟨95, 95⟩, ⟨97, 122⟩]⟩

/-- The class with a name that may stand between `[:` and `:]`. -/
def named? : String → Option CodeSet
  | "alnum" => some ⟨[⟨48, 57⟩, ⟨65, 90⟩, ⟨97, 122⟩]⟩
  | "alpha" => some letter
  | "ascii" => some (.range 0 127)
  | "blank" => some ⟨[⟨9, 9⟩, ⟨32, 32⟩]⟩
  | "cntrl" => some ⟨[⟨0, 31⟩, ⟨127, 127⟩]⟩
  | "digit" => some digit
  | "graph" => some (.range 33 126)
  | "lower" => some (.range 97 122)
  | "print" => some (.range 32 126)
  | "punct" => some ⟨[⟨33, 47⟩, ⟨58, 64⟩, ⟨91, 96⟩, ⟨123, 126⟩]⟩
  | "space" => some space
  | "upper" => some (.range 65 90)
  | "word" => some word
  | "xdigit" => some ⟨[⟨48, 57⟩, ⟨65, 70⟩, ⟨97, 102⟩]⟩
  | _ => none

/-- The set with both cases of the letters in it. -/
def withBothCases (set : CodeSet) : CodeSet :=
  let small := (set.intersection (.range 97 122)).ranges
  let capital := (set.intersection (.range 65 90)).ranges
  .ofRanges (set.ranges ++
    (small.map fun range => ⟨range.first - 32, range.last - 32⟩) ++
    capital.map fun range => ⟨range.first + 32, range.last + 32⟩)

example : withBothCases (.range 64 66) = ⟨[⟨64, 66⟩, ⟨97, 98⟩]⟩ := by cbv

end PageSketch.Pattern.AsciiClass
