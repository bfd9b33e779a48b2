import PageSketch.Unicode.Runs

/-! # Ideographs

Code points of the Han script, and what describes and composes them. -/

namespace PageSketch.Unicode.Ideograph

def ideographic : CodeSet :=
  ⟨[⟨12294, 12295⟩, ⟨12321, 12329⟩, ⟨12344, 12346⟩, ⟨13312, 19903⟩, ⟨19968, 40959⟩,
    ⟨63744, 64109⟩, ⟨64112, 64217⟩, ⟨94180, 94180⟩, ⟨94208, 100343⟩, ⟨100352, 101589⟩,
    ⟨101631, 101640⟩, ⟨110960, 111355⟩, ⟨131072, 173791⟩, ⟨173824, 177977⟩, ⟨177984, 178205⟩,
    ⟨178208, 183969⟩, ⟨183984, 191456⟩, ⟨191472, 192093⟩, ⟨194560, 195101⟩, ⟨196608, 201546⟩,
    ⟨201552, 205743⟩]⟩

def unified : CodeSet :=
  ⟨[⟨13312, 19903⟩, ⟨19968, 40959⟩, ⟨64014, 64015⟩, ⟨64017, 64017⟩, ⟨64019, 64020⟩,
    ⟨64031, 64031⟩, ⟨64033, 64033⟩, ⟨64035, 64036⟩, ⟨64039, 64041⟩, ⟨131072, 173791⟩,
    ⟨173824, 177977⟩, ⟨177984, 178205⟩, ⟨178208, 183969⟩, ⟨183984, 191456⟩, ⟨191472, 192093⟩,
    ⟨196608, 201546⟩, ⟨201552, 205743⟩]⟩

def radical : CodeSet :=
  ⟨[⟨11904, 11929⟩, ⟨11931, 12019⟩, ⟨12032, 12245⟩]⟩

/-- Describe an ideograph by one part. -/
def unaryOperator : CodeSet :=
  ⟨[⟨12286, 12287⟩]⟩

def binaryOperator : CodeSet :=
  ⟨[⟨12272, 12273⟩, ⟨12276, 12285⟩, ⟨12783, 12783⟩]⟩

def trinaryOperator : CodeSet :=
  ⟨[⟨12274, 12275⟩]⟩

end PageSketch.Unicode.Ideograph
