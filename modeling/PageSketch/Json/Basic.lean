/-! # JSON values

Objects keep their members in the order in which they are written, repeated names
included. Whole numbers are kept apart from all others, since some fields accept
nothing else. -/

namespace PageSketch

/-- A JSON value whose numbers with a point or an exponent are of type `α`. -/
inductive Json (α : Type) where
  | null
  | bool (value : Bool)
  | integer (value : Int)
  | real (value : α)
  | text (value : String)
  | array (items : List (Json α))
  | object (members : List (String × Json α))

namespace Json

variable {α β : Type}

mutual
def mapReals (f : α → Json β) : Json α → Json β
  | .null => .null
  | .bool value => .bool value
  | .integer value => .integer value
  | .real value => f value
  | .text value => .text value
  | .array items => .array (mapRealsItems f items)
  | .object members => .object (mapRealsMembers f members)

def mapRealsItems (f : α → Json β) : List (Json α) → List (Json β)
  | [] => []
  | item :: rest => item.mapReals f :: mapRealsItems f rest

def mapRealsMembers (f : α → Json β) : List (String × Json α) → List (String × Json β)
  | [] => []
  | (name, value) :: rest => (name, value.mapReals f) :: mapRealsMembers f rest
end

/-- The value of the first member with a name. -/
def member? (name : String) : Json α → Option (Json α)
  | .object members => members.lookup name
  | _ => none

end Json

end PageSketch
