import PageSketch.Geometry.Point
import PageSketch.Json.Record

/-! # Lengths in configurations

A length is written as text with a unit, or as an object with one unit. An object
without a unit is a length of zero. Points and sizes name two lengths, of which
those left out are zero. -/

namespace PageSketch

/-- Numbers by unit, each unit once, in the order of their names. -/
structure UnitMap (α : Type) where
  entries : List (String × α)
  increasing : (entries.map (·.1)).Pairwise (· < ·)
deriving DecidableEq

namespace UnitMap

variable {α : Type}

/-- Puts an entry into its place. A number that was there for its unit is replaced. -/
def insertEntry (unit : String) (value : α) : List (String × α) → List (String × α)
  | [] => [(unit, value)]
  | (first, number) :: rest =>
      if unit < first then (unit, value) :: (first, number) :: rest
      else if unit = first then (unit, value) :: rest
      else (first, number) :: insertEntry unit value rest

theorem mem_insertEntry_keys {unit name : String} {value : α} {entries : List (String × α)}
    (member : name ∈ (insertEntry unit value entries).map (·.1)) :
    name = unit ∨ name ∈ entries.map (·.1) := by
  induction entries with
  | nil => simpa [insertEntry] using member
  | cons entry rest ih =>
      obtain ⟨first, number⟩ := entry
      simp only [insertEntry] at member
      split at member
      · simpa using member
      · split at member
        · next same =>
            simp only [List.map_cons, List.mem_cons] at member ⊢
            exact member.imp_right .inr
        · simp only [List.map_cons, List.mem_cons] at member ⊢
          rcases member with first | later
          · exact .inr (.inl first)
          · exact (ih later).imp_right .inr

theorem increasing_insertEntry (unit : String) (value : α) {entries : List (String × α)}
    (increasing : (entries.map (·.1)).Pairwise (· < ·)) :
    ((insertEntry unit value entries).map (·.1)).Pairwise (· < ·) := by
  induction entries with
  | nil => simp [insertEntry]
  | cons entry rest ih =>
      obtain ⟨first, number⟩ := entry
      simp only [List.map_cons, List.pairwise_cons] at increasing
      obtain ⟨above, ordered⟩ := increasing
      simp only [insertEntry]
      split
      · next before =>
          simp only [List.map_cons, List.pairwise_cons, List.mem_cons]
          refine ⟨fun name member => ?_, above, ordered⟩
          rcases member with rfl | later
          · exact before
          · exact String.lt_trans before (above name later)
      · next notBefore =>
          split
          · next same =>
              subst same
              exact List.pairwise_cons.mpr ⟨above, ordered⟩
          · next different =>
              refine List.pairwise_cons.mpr ⟨fun name member => ?_, ih ordered⟩
              rcases mem_insertEntry_keys member with rfl | later
              · exact String.not_le.mp fun le =>
                  different (String.le_antisymm le (String.not_lt.mp notBefore))
              · exact above name later

def empty : UnitMap α := ⟨[], .nil⟩

def single (unit : String) (value : α) : UnitMap α := ⟨[(unit, value)], by simp⟩

def insert (map : UnitMap α) (unit : String) (value : α) : UnitMap α :=
  ⟨insertEntry unit value map.entries, increasing_insertEntry unit value map.increasing⟩

/-- The map with all entries of a list, in which later ones win. -/
def ofEntries (entries : List (String × α)) : UnitMap α :=
  entries.foldl (fun map (unit, value) => map.insert unit value) empty

def units (map : UnitMap α) : List String := map.entries.map (·.1)

end UnitMap

inductive LengthSpec (α : Type) where
  | text (written : String)
  | units (map : UnitMap α)
deriving DecidableEq

namespace LengthSpec

variable {α : Type} [Scalar α]

def ofUnit (unit : LengthUnit) (value : α) : LengthSpec α := .units (.single unit.name value)

def ofLength (length : Length α) : LengthSpec α := ofUnit .pt length.points

def read : LengthSpec α → Except LengthProblem (Length α)
  | .text written => Length.read written
  | .units map =>
      match map.entries with
      | [] => .ok .zero
      | [(unit, value)] => (LengthUnit.read unit).map fun unit => unit.size.scale value
      | _ => .error (.manyUnits map.units)

/-- The length that is meant, for places that expect any failure. -/
def length (spec : LengthSpec α) : Except Failure (Length α) :=
  spec.read.mapError LengthProblem.toFailure

def lengthOrZero (spec : Option (LengthSpec α)) : Except Failure (Length α) :=
  match spec with
  | some spec => spec.length
  | none => .ok .zero

def encode : LengthSpec α → Json α
  | .text written => .text written
  | .units map => .object (map.entries.map fun (unit, value) => (unit, Json.ofReal value))

def decodeEntry? (member : String × Json α) : Option (String × α) :=
  (Json.real? member.2).map (member.1, ·)

def decode? : Json α → Option (LengthSpec α)
  | .text written => some (.text written)
  | .object members => (members.mapM decodeEntry?).map fun entries => .units (.ofEntries entries)
  | _ => none

end LengthSpec

structure PointSpec (α : Type) where
  left : Option (LengthSpec α) := none
  top : Option (LengthSpec α) := none
deriving DecidableEq

namespace PointSpec

variable {α : Type} [Scalar α]

def point (spec : PointSpec α) : Except Failure (Point α) := do
  let left ← Failure.atPlace "left" (LengthSpec.lengthOrZero spec.left)
  let top ← Failure.atPlace "top" (LengthSpec.lengthOrZero spec.top)
  return ⟨left, top⟩

def fieldNames : List String := ["left", "top"]

def encode (spec : PointSpec α) : Json α :=
  Json.ofFields [("left", spec.left.map LengthSpec.encode),
    ("top", spec.top.map LengthSpec.encode)]

def decode? (value : Json α) : Option (PointSpec α) := do
  match ← Json.slots? fieldNames value with
  | [left, top] =>
      return { left := ← Json.optional LengthSpec.decode? left
               top := ← Json.optional LengthSpec.decode? top }
  | _ => none

end PointSpec

structure SizeSpec (α : Type) where
  width : Option (LengthSpec α) := none
  height : Option (LengthSpec α) := none
deriving DecidableEq

namespace SizeSpec

variable {α : Type} [Scalar α]

def size (spec : SizeSpec α) : Except Failure (Size α) := do
  let width ← Failure.atPlace "width" (LengthSpec.lengthOrZero spec.width)
  let height ← Failure.atPlace "height" (LengthSpec.lengthOrZero spec.height)
  return ⟨width, height⟩

def fieldNames : List String := ["width", "height"]

def encode (spec : SizeSpec α) : Json α :=
  Json.ofFields [("width", spec.width.map LengthSpec.encode),
    ("height", spec.height.map LengthSpec.encode)]

def decode? (value : Json α) : Option (SizeSpec α) := do
  match ← Json.slots? fieldNames value with
  | [width, height] =>
      return { width := ← Json.optional LengthSpec.decode? width
               height := ← Json.optional LengthSpec.decode? height }
  | _ => none

end SizeSpec

end PageSketch
