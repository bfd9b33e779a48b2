import Std.Data.HashMap
import PageSketch.Unicode.ByteRange

/-! # Room for byte programs

Patterns are bounded in the size of their programs over the bytes of UTF-8. Here states
are counted without being built. Every state takes 32 bytes, each edge by which it is
left on a byte takes 8, and each other way on takes 4. -/

namespace PageSketch.Pattern

open Unicode

structure Footprint where
  /-- The number of states, which is also the name of the next one. -/
  states : Nat := 0
  /-- The bytes that states take beyond those that each takes. -/
  extra : Nat := 0
deriving DecidableEq, Repr

namespace Footprint

def limit : Nat := 10 * 1024 * 1024

def room (footprint : Footprint) : Nat := 32 * footprint.states + footprint.extra

/-- Counts some states with what they take beside, up to the limit. -/
def add? (footprint : Footprint) (states extra : Nat) : Option Footprint :=
  let grown : Footprint := ⟨footprint.states + states, footprint.extra + extra⟩
  if grown.room ≤ limit then some grown else none

def times? (count : Nat) (step : Footprint → Option Footprint) (footprint : Footprint) :
    Option Footprint :=
  match count with
  | 0 => some footprint
  | count + 1 =>
      match step footprint with
      | some footprint => times? count step footprint
      | none => none

/-- The place of some numbers in a table with `size` places: they are mixed one by one
into a word of 64 bits. -/
def slot (size : UInt64) (numbers : List Nat) : UInt64 :=
  numbers.foldl (fun (word : UInt64) number => (word ^^^ number.toUInt64) * 1099511628211)
    14695981039346656037 % size

/-! ## Classes read forwards

The states for a class are shared where they go on in the same way. States that are
complete are kept in a table, where a new one may take the place of an old one. -/

structure Edge where
  bytes : ByteRange
  target : Nat
deriving DecidableEq, Repr

/-- A state that is not complete: its edges, and the bytes of a last one that will lead
to a state not complete either. -/
structure OpenState where
  edges : List Edge
  bytes : ByteRange

structure ForwardCount where
  footprint : Footprint
  /-- The complete states by their places, with their edges and names. -/
  known : Std.HashMap UInt64 (List Edge × Nat)

def edgeNumbers (edges : List Edge) : List Nat :=
  edges.flatMap fun edge => [edge.bytes.first, edge.bytes.last, edge.target]

def complete? (count : ForwardCount) (edges : List Edge) : Option (ForwardCount × Nat) :=
  let place := slot 10000 (edgeNumbers edges)
  match count.known[place]? with
  | some (known, name) => if known = edges then some (count, name) else added place
  | none => added place
where
  added (place : UInt64) : Option (ForwardCount × Nat) :=
    (count.footprint.add? 1 (8 * edges.length)).map fun footprint =>
      (⟨footprint, count.known.insert place (edges, count.footprint.states)⟩,
        count.footprint.states)

/-- Completes open states, of which each leads to the next and the last one to `target`. -/
def completeAll? (target : Nat) (count : ForwardCount) :
    List OpenState → Option (ForwardCount × Nat)
  | [] => some (count, target)
  | state :: rest =>
      match completeAll? target count rest with
      | some (count, next) => complete? count (state.edges ++ [⟨state.bytes, next⟩])
      | none => none

def opened (spelling : List ByteRange) : List OpenState := spelling.map (⟨[], ·⟩)

/-- Adds a spelling to open states. It goes along with them as far as it has the same
bytes; the states behind the first difference are completed. -/
def addSpelling? (target : Nat) (count : ForwardCount) :
    List OpenState → List ByteRange → Option (ForwardCount × List OpenState)
  | state :: rest, bytes :: spelling =>
      if state.bytes = bytes then
        match addSpelling? target count rest spelling with
        | some (count, rest) => some (count, state :: rest)
        | none => none
      else
        match completeAll? target count rest with
        | some (count, next) =>
            some (count, ⟨state.edges ++ [⟨state.bytes, next⟩], bytes⟩ :: opened spelling)
        | none => none
  | _, spelling => some (count, opened spelling)

def addSpellings? (target : Nat) (count : ForwardCount) (states : List OpenState) :
    List (List ByteRange) → Option (ForwardCount × List OpenState)
  | [] => some (count, states)
  | spelling :: rest =>
      match addSpelling? target count states spelling with
      | some (count, states) => addSpellings? target count states rest
      | none => none

def forwardClass? (set : CodeSet) (footprint : Footprint) : Option Footprint := do
  let target := footprint.states
  let count : ForwardCount := ⟨← footprint.add? 1 0, {}⟩
  let (count, states) ← addSpellings? target count [] set.spellings
  return (← completeAll? target count states).1.footprint

/-! ## Classes read backwards

Every spelling has a way of its own from the start. Where ways end alike they are
joined, as far as the table remembers. -/

structure BackwardCount where
  footprint : Footprint
  /-- The states by their places, each with the state to which it leads and its bytes. -/
  known : Std.HashMap UInt64 ((Nat × ByteRange) × Nat)

/-- Counts the states of a way, from the end of it on. -/
def addWay? (count : BackwardCount) (target : Nat) : List ByteRange → Option BackwardCount
  | [] => some count
  | bytes :: rest =>
      let place := slot 1000 [target, bytes.first, bytes.last]
      let known :=
        match count.known[place]? with
        | some (key, name) => if key = (target, bytes) then some name else none
        | none => none
      match known with
      | some name => addWay? count name rest
      | none =>
          let name := count.footprint.states
          match count.footprint.add? 1 0 with
          | some footprint =>
              addWay? ⟨footprint, count.known.insert place ((target, bytes), name)⟩ name rest
          | none => none

def addWays? (target : Nat) (count : BackwardCount) :
    List (List ByteRange) → Option BackwardCount
  | [] => some count
  | spelling :: rest =>
      match addWay? count target spelling with
      | some count =>
          match count.footprint.add? 0 4 with
          | some footprint => addWays? target ⟨footprint, count.known⟩ rest
          | none => none
      | none => none

def backwardClass? (set : CodeSet) (footprint : Footprint) : Option Footprint := do
  let count : BackwardCount := ⟨← footprint.add? 2 0, {}⟩
  return (← addWays? (footprint.states + 1) count set.spellings).footprint

/-! ## Literals to choose from

Literals are kept in a tree of bytes. At a place where a literal ends, the ways on that
come after it in the order of preference are kept apart from those before it. -/

def partAtEmpty : List (List Nat) → List (List (List Nat))
  | [] => [[]]
  | [] :: rest => [] :: partAtEmpty rest
  | word :: rest =>
      match partAtEmpty rest with
      | group :: groups => (word :: group) :: groups
      | [] => [[word]]

/-- The words of a group by their first bytes, without these. -/
def branches (group : List (List Nat)) : List (List (List Nat)) :=
  ((group.filterMap (·.head?)).eraseDups).map fun byte =>
    (group.filter (·.head? = some byte)).map (·.tail)

/-- The footprint of a place from which some words go on. A word that ends where none
goes on yet ends but once. The bound is the length of the longest word. -/
def treeRoom : Nat → List (List Nat) → Footprint
  | 0, _ => {}
  | bound + 1, words =>
      if words.all (·.isEmpty) then
        {}
      else
        let leading := (words.takeWhile (·.isEmpty)).length
        let groups := partAtEmpty (words.drop (leading - 1))
        let ways := (groups.filter (!·.isEmpty)).map branches
        let here : Footprint :=
          { states := ways.length + 1
            extra :=
              ways.foldl (fun extra way => extra + if way.length = 1 then 0 else 8 * way.length)
                (4 * (ways.length + (groups.length - 1))) }
        (ways.flatten.map (treeRoom bound)).foldl
          (fun total part => ⟨total.states + part.states, total.extra + part.extra⟩) here

def words? (words : List (List Nat)) (footprint : Footprint) : Option Footprint :=
  let bound := words.foldl (fun bound word => max bound word.length) 0
  let tree := treeRoom (bound + 1) words
  footprint.add? (tree.states + 1) tree.extra

end Footprint

end PageSketch.Pattern
