import PageSketch.Unicode.Runs

/-! # Code points without a shape

Code points that control how others are shown. -/

namespace PageSketch.Unicode.Invisible

def bidiControl : CodeSet :=
  ⟨[⟨1564, 1564⟩, ⟨8206, 8207⟩, ⟨8234, 8238⟩, ⟨8294, 8297⟩]⟩

/-- The two characters that join or part their neighbours. -/
def joinControl : CodeSet :=
  ⟨[⟨8204, 8205⟩]⟩

def variationSelector : CodeSet :=
  ⟨[⟨6155, 6157⟩, ⟨6159, 6159⟩, ⟨65024, 65039⟩, ⟨917760, 917999⟩]⟩

/-- Stand before the numbers that they enclose. -/
def prependedMark : CodeSet :=
  ⟨[⟨1536, 1541⟩, ⟨1757, 1757⟩, ⟨1807, 1807⟩, ⟨2192, 2193⟩, ⟨2274, 2274⟩, ⟨69821, 69821⟩,
    ⟨69837, 69837⟩]⟩

/-- Never assigned to characters. -/
def noncharacter : CodeSet :=
  ⟨[⟨64976, 65007⟩, ⟨65534, 65535⟩, ⟨131070, 131071⟩, ⟨196606, 196607⟩, ⟨262142, 262143⟩,
    ⟨327678, 327679⟩, ⟨393214, 393215⟩, ⟨458750, 458751⟩, ⟨524286, 524287⟩, ⟨589822, 589823⟩,
    ⟨655358, 655359⟩, ⟨720894, 720895⟩, ⟨786430, 786431⟩, ⟨851966, 851967⟩, ⟨917502, 917503⟩,
    ⟨983038, 983039⟩, ⟨1048574, 1048575⟩, ⟨1114110, 1114111⟩]⟩

def deprecated : CodeSet :=
  ⟨[⟨329, 329⟩, ⟨1651, 1651⟩, ⟨3959, 3959⟩, ⟨3961, 3961⟩, ⟨6051, 6052⟩, ⟨8298, 8303⟩,
    ⟨9001, 9002⟩, ⟨917505, 917505⟩]⟩

end PageSketch.Unicode.Invisible
