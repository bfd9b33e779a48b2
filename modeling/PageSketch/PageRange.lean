import PageSketch.Decimal.Numeral
import PageSketch.Failure
import PageSketch.Text.Blank

/-! # Ranges of pages

A range is written `3`, `1-4`, `2-` or `last`. The end `last` stands for the last
page, whatever its number; it is also the largest number that an end can have. -/

namespace PageSketch

inductive RangeProblem where
  /-- The range begins before the first page. -/
  | lowerEnd (lower : Nat)
  /-- The range ends before it begins. -/
  | upperEnd (lower upper : Nat)
  | unreadable (text : String)
deriving DecidableEq, Repr

namespace RangeProblem

def toFailure : RangeProblem → Failure
  | .lowerEnd lower =>
      .cause (.invalidPageRange ("lower end must be >=1, got " ++ toString lower))
  | .upperEnd lower upper =>
      .cause (.invalidPageRange
        ("upper end must be same as lower (" ++ toString lower ++ ") or larger, got "
          ++ toString upper))
  | .unreadable text => .cause (.invalidPageRange ("cannot parse " ++ Text.quoted text))

end RangeProblem

/-- The number of a page or the end of a range, of 64 bits. -/
abbrev PageNumber := Fin UInt64.size

/-- The end that stands for the last page. -/
def PageNumber.last : PageNumber := Fin.last (UInt64.size - 1)

/-- The number so many pages later, or the largest one if that is too far. -/
def PageNumber.advance (page : PageNumber) (count : Nat) : PageNumber :=
  if small : page.val + count < UInt64.size then ⟨page.val + count, small⟩ else .last

/-- A range of pages, both ends included, counted from one. -/
structure PageRange where
  lower : PageNumber
  upper : PageNumber
  one_le_lower : 1 ≤ lower.val
  lower_le_upper : lower ≤ upper
deriving DecidableEq

namespace PageRange

def all : PageRange where
  lower := 1
  upper := .last
  one_le_lower := by decide
  lower_le_upper := by decide

def ofEnds (lower upper : PageNumber) : Except RangeProblem PageRange :=
  if low : 1 ≤ lower.val then
    if high : lower ≤ upper then
      .ok ⟨lower, upper, low, high⟩
    else
      .error (.upperEnd lower upper)
  else
    .error (.lowerEnd lower)

def single (page : PageNumber) : Except RangeProblem PageRange := ofEnds page page

def isLastOnly (range : PageRange) : Bool := range.lower = .last

/-- A page lies within the range. That can never be told if only the last page is
meant, as it takes the count of pages. -/
def contains (range : PageRange) (page : Nat) : Bool :=
  !range.isLastOnly && range.lower.val ≤ page && page ≤ range.upper.val

/-- The first `count` pages of the range, all of them for zero. -/
def limit (range : PageRange) (count : Nat) : Except RangeProblem PageRange :=
  if count = 0 ∨ range.isLastOnly then
    .ok range
  else
    let final := PageNumber.advance range.lower (count - 1)
    ofEnds range.lower (if range.upper ≤ final then range.upper else final)

/-! ## Text -/

def display (range : PageRange) : String :=
  if range.isLastOnly then "(last)"
  else if range.lower = range.upper then toString range.lower.val
  else if range.upper = .last then toString range.lower.val ++ "-(last)"
  else toString range.lower.val ++ "-" ++ toString range.upper.val

/-- Reads digits, perhaps after a plus sign. -/
def readNumber? (text : List Char) : Option PageNumber :=
  let digits := if text.head? = some '+' then text.tail else text
  let value := digitsValue 0 digits
  if bounded : digits ≠ [] ∧ digits.all Char.isDigit ∧ value < UInt64.size then
    some ⟨value, bounded.2.2⟩
  else
    none

def readEnd? (text : List Char) : Option PageNumber :=
  let word := Text.trim text
  if word = "last".toList ∨ word = "(last)".toList then some .last else readNumber? word

/-- Reads a range without blanks around it: one end, or two with a dash between
them. If nothing follows the dash, the range is open. -/
def readTrimmed (text : List Char) : Except RangeProblem PageRange :=
  let unreadable : RangeProblem := .unreadable (String.ofList text)
  let before := text.takeWhile (· ≠ '-')
  match text.dropWhile (· ≠ '-') with
  | [] =>
      match readEnd? before with
      | some page => single page
      | none => .error unreadable
  | _ :: after =>
      let upper? := if (Text.trim after).isEmpty then some .last else readEnd? after
      match readEnd? before, upper? with
      | some lower, some upper => ofEnds lower upper
      | _, _ => .error unreadable

def read (text : String) : Except RangeProblem PageRange :=
  readTrimmed (Text.trim text.toList)

end PageRange

end PageSketch
