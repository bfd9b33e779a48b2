import PageSketch.Unicode.CodeSet

/-! # Ranges of bytes

The UTF-8 forms of a range of code points are what a few sequences of byte ranges
spell out. Each sequence stands for the code points of one piece of the range, within
which all but the last bytes change independently. -/

namespace PageSketch.Unicode

structure ByteRange where
  first : Nat
  last : Nat
deriving DecidableEq, Repr

def utf8Bytes (code : Nat) : List Nat :=
  if code < 0x80 then
    [code]
  else if code < 0x800 then
    [0xc0 + code / 0x40, 0x80 + code % 0x40]
  else if code < 0x10000 then
    [0xe0 + code / 0x1000, 0x80 + code / 0x40 % 0x40, 0x80 + code % 0x40]
  else
    [0xf0 + code / 0x40000, 0x80 + code / 0x1000 % 0x40, 0x80 + code / 0x40 % 0x40,
      0x80 + code % 0x40]

example : utf8Bytes 0x20ac = [0xe2, 0x82, 0xac] := rfl

namespace CodeRange

/-- Where a range is to be parted, so that neither part has longer forms than the other,
nor an incomplete block of following bytes beside further blocks: the last code
point of the first part. -/
def partingPoint? (range : CodeRange) : Option Nat :=
  let lengthEnd := [0x7f, 0x7ff, 0xffff].find? fun last => range.first ≤ last && last < range.last
  lengthEnd.orElse fun _ =>
    if range.last ≤ 0x7f then
      none
    else
      [0x40, 0x1000, 0x40000].findSome? fun block =>
        if range.first / block = range.last / block then
          none
        else if range.first % block ≠ 0 then
          some (range.first / block * block + block - 1)
        else if range.last % block ≠ block - 1 then
          some (range.last / block * block - 1)
        else
          none

/-- The pieces of a range that are each spelt out by one sequence of byte ranges. -/
def pieces (range : CodeRange) : List CodeRange :=
  match range.partingPoint? with
  | some middle =>
      if range.first ≤ middle ∧ middle < range.last then
        pieces ⟨range.first, middle⟩ ++ pieces ⟨middle + 1, range.last⟩
      else
        [range]
  | none => [range]
termination_by range.last - range.first

def withoutSurrogates (range : CodeRange) : List CodeRange :=
  if range.first < 0xe000 ∧ 0xd7ff < range.last then
    [⟨range.first, 0xd7ff⟩, ⟨0xe000, range.last⟩].filter fun part => part.first ≤ part.last
  else
    [range]

def spelling (piece : CodeRange) : List ByteRange :=
  List.zipWith ByteRange.mk (utf8Bytes piece.first) (utf8Bytes piece.last)

end CodeRange

/-- The sequences of byte ranges that spell out a set, in order. -/
def CodeSet.spellings (set : CodeSet) : List (List ByteRange) :=
  ((set.ranges.flatMap (·.withoutSurrogates)).flatMap (·.pieces)).map (·.spelling)

end PageSketch.Unicode
