import PageSketch.Json.Basic
import PageSketch.Scalar.Basic

/-! # Records in JSON

A record is written as an object, or as an array of its fields in their order.
Every field has a slot, which is empty if the field is left out. -/

namespace PageSketch.Json

variable {α β : Type}

/-! ## Reading -/

/-- The slots of the fields with the given names. A name must not occur twice, and
all names must be known; an array must not be too long. -/
def slots? (names : List String) : Json α → Option (List (Option (Json α)))
  | .object members =>
      let given := members.map (·.1)
      if given.all (names.contains ·) ∧ given.Nodup then
        some (names.map (members.lookup ·))
      else
        none
  | .array items =>
      if items.length ≤ names.length then
        some (items.map some ++ List.replicate (names.length - items.length) none)
      else
        none
  | _ => none

def required (decode : Json α → Option β) (slot : Option (Json α)) : Option β :=
  slot.bind decode

/-- A field that has a value of its own if it is left out. -/
def defaulted (decode : Json α → Option β) (default : β) : Option (Json α) → Option β
  | some value => decode value
  | none => some default

/-- A field that may be left out or null. -/
def optional (decode : Json α → Option β) : Option (Json α) → Option (Option β)
  | none => some none
  | some .null => some none
  | some value => (decode value).map some

def text? : Json α → Option String
  | .text value => some value
  | _ => none

def bool? : Json α → Option Bool
  | .bool value => some value
  | _ => none

def integer? : Json α → Option Int
  | .integer value => some value
  | _ => none

/-- A whole number that fits into 64 bits without a sign. -/
def natural? : Json α → Option Nat
  | .integer value => if 0 ≤ value ∧ value.toNat < UInt64.size then some value.toNat else none
  | _ => none

def real? [Scalar α] : Json α → Option α
  | .real value => some value
  | .integer value => some (Scalar.ofDecimal (decide (value < 0)) value.natAbs 0)
  | _ => none

def char? : Json α → Option Char
  | .text value =>
      match value.toList with
      | [character] => some character
      | _ => none
  | _ => none

def list? (decode : Json α → Option β) : Json α → Option (List β)
  | .array items => items.mapM decode
  | _ => none

/-! ## Writing -/

/-- A number; one that is not finite is written as null. -/
def ofReal [Scalar α] (value : α) : Json α :=
  if Scalar.isFinite value then .real value else .null

def ofList (encode : β → Json α) (items : List β) : Json α := .array (items.map encode)

/-- A record; fields without a value are left out. -/
def ofFields (fields : List (String × Option (Json α))) : Json α :=
  .object (fields.filterMap fun (name, value) => value.map (name, ·))

def nonempty? (encode : β → Json α) (items : List β) : Option (Json α) :=
  if items.isEmpty then none else some (ofList encode items)

end PageSketch.Json
