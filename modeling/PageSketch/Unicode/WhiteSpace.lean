import PageSketch.Unicode.CodeSet

/-! # White space -/

namespace PageSketch.Unicode

def whiteSpace : CodeSet :=
  ⟨[⟨9, 13⟩, ⟨32, 32⟩, ⟨133, 133⟩, ⟨160, 160⟩, ⟨5760, 5760⟩, ⟨8192, 8202⟩, ⟨8232, 8233⟩,
    ⟨8239, 8239⟩, ⟨8287, 8287⟩, ⟨12288, 12288⟩]⟩

def isWhiteSpace (code : Nat) : Bool := whiteSpace.contains code

end PageSketch.Unicode
