/-! # Sets of code points

A set is a list of ranges in increasing order that neither overlap nor touch. Sets
are combined range by range. -/

namespace PageSketch.Unicode

def lastCode : Nat := 0x10ffff

structure CodeRange where
  first : Nat
  last : Nat
deriving DecidableEq, Repr

namespace CodeRange

def contains (range : CodeRange) (code : Nat) : Bool :=
  range.first ≤ code && code ≤ range.last

/-- Puts a range before ranges that begin no earlier, joined with those it meets. -/
def absorb (range : CodeRange) : List CodeRange → List CodeRange
  | [] => [range]
  | next :: rest =>
      if next.first ≤ range.last + 1 then
        absorb ⟨range.first, max range.last next.last⟩ rest
      else
        range :: next :: rest

def overlap? (a b : CodeRange) : Option CodeRange :=
  if max a.first b.first ≤ min a.last b.last then
    some ⟨max a.first b.first, min a.last b.last⟩
  else
    none

def ordered (range : CodeRange) : CodeRange :=
  ⟨min range.first range.last, max range.first range.last⟩

end CodeRange

structure CodeSet where
  ranges : List CodeRange
deriving DecidableEq, Repr

namespace CodeSet

def contains (set : CodeSet) (code : Nat) : Bool := set.ranges.any (·.contains code)

def isEmpty (set : CodeSet) : Bool := set.ranges.isEmpty

def empty : CodeSet := ⟨[]⟩

def all : CodeSet := ⟨[⟨0, lastCode⟩]⟩

def single (code : Nat) : CodeSet := ⟨[⟨code, code⟩]⟩

def range (first last : Nat) : CodeSet := ⟨[⟨first, last⟩]⟩

/-- Joins ranges that are sorted. -/
def joined (ranges : List CodeRange) : List CodeRange := ranges.foldr CodeRange.absorb []

/-- The code points of some ranges in any order. -/
def ofRanges (ranges : List CodeRange) : CodeSet :=
  ⟨joined (ranges.mergeSort fun a b => decide (a.first ≤ b.first))⟩

def union (a b : CodeSet) : CodeSet := ofRanges (a.ranges ++ b.ranges)

def unionAll (sets : List CodeSet) : CodeSet := ofRanges (sets.flatMap (·.ranges))

def intersection (a b : CodeSet) : CodeSet :=
  ⟨a.ranges.flatMap fun range => b.ranges.filterMap range.overlap?⟩

/-! ## Complements

Surrogates are not characters: the neighbours of a code point are found beyond them. -/

def after (code : Nat) : Nat := if code = 0xd7ff then 0xe000 else code + 1

def before (code : Nat) : Nat := if code = 0xe000 then 0xd7ff else code - 1

/-- The gaps between ranges, the first one from `start` on. Where one range ends at the
surrogates and the next begins behind them the gap is empty, with its ends reversed. -/
def gaps (start : Nat) : List CodeRange → List CodeRange
  | [] => if start ≤ lastCode then [⟨start, lastCode⟩] else []
  | range :: rest =>
      let further := gaps (after range.last) rest
      if range.first = 0 then further else ⟨start, before range.first⟩ :: further

def difference (a b : CodeSet) : CodeSet :=
  a.intersection ⟨(gaps 0 b.ranges).filter fun gap => gap.first ≤ gap.last⟩

def symmetricDifference (a b : CodeSet) : CodeSet :=
  (a.union b).difference (a.intersection b)

/-- What is not in the set. Of an empty gap at the surrogates both ends are taken. -/
def complement (set : CodeSet) : CodeSet := ⟨(gaps 0 set.ranges).map (·.ordered)⟩

example : (range 97 99).complement = ⟨[⟨0, 96⟩, ⟨100, 0x10ffff⟩]⟩ := by decide

example : (range 97 102).difference (range 99 100) = ⟨[⟨97, 98⟩, ⟨101, 102⟩]⟩ := by decide

end CodeSet

end PageSketch.Unicode
