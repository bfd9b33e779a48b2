import PageSketch.Geometry.Rect

/-! # Features of nodes

A feature is a point on the bounds of a node to which other rectangles can be
anchored. References to features are ordered by node, then feature. -/

namespace PageSketch

/-- The features that a reference can name. Only corners are points. -/
inductive Feature where
  | unspecified
  | topLeft
  | topRight
  | bottomLeft
  | bottomRight
deriving DecidableEq, Repr

namespace Feature

def all : List Feature := [.unspecified, .topLeft, .topRight, .bottomLeft, .bottomRight]

def name : Feature → String
  | .unspecified => "unspecified"
  | .topLeft => "top_left"
  | .topRight => "top_right"
  | .bottomLeft => "bottom_left"
  | .bottomRight => "bottom_right"

def rank : Feature → Nat
  | .unspecified => 0
  | .topLeft => 1
  | .topRight => 2
  | .bottomLeft => 3
  | .bottomRight => 4

def ofName? (name : String) : Option Feature := all.find? (·.name = name)

example : ∀ feature ∈ all, ofName? feature.name = some feature := by decide

def locate? {α : Type} [Scalar α] (feature : Feature) (bounds : Rect α) : Option (Point α) :=
  match feature with
  | .unspecified => none
  | .topLeft => some bounds.topLeft
  | .topRight => some bounds.topRight
  | .bottomLeft => some bounds.bottomLeft
  | .bottomRight => some bounds.bottomRight

end Feature

/-- The feature is a point on the bounds of every node. -/
def Feature.isPoint : Feature → Bool
  | .unspecified => false
  | .topLeft | .topRight | .bottomLeft | .bottomRight => true

theorem Feature.isSome_locate? {α : Type} [Scalar α] (feature : Feature) (bounds : Rect α) :
    (feature.locate? bounds).isSome = feature.isPoint := by
  cases feature <;> rfl

structure FeatureRef where
  node : String
  feature : Feature
deriving DecidableEq, Repr

namespace FeatureRef

def named (node : String) (feature : Feature) : Except Failure FeatureRef :=
  if node.isEmpty then .error (.cause (.incompleteConfig "missing node name"))
  else .ok ⟨node, feature⟩

def display (ref : FeatureRef) : String := ref.node ++ ":" ++ ref.feature.name

/-- The order by node, then feature. -/
def Precedes (a b : FeatureRef) : Prop :=
  a.node < b.node ∨ a.node = b.node ∧ a.feature.rank < b.feature.rank

instance (a b : FeatureRef) : Decidable (a.Precedes b) :=
  inferInstanceAs (Decidable (_ ∨ _))

def insert (ref : FeatureRef) : List FeatureRef → List FeatureRef
  | [] => [ref]
  | first :: rest =>
      if ref.Precedes first then ref :: first :: rest
      else if ref = first then first :: rest
      else first :: insert ref rest

def distinct (refs : List FeatureRef) : List FeatureRef := refs.foldr insert []

end FeatureRef

abbrev FeatureLookup (α : Type) := FeatureRef → Except Failure (Point α)

/-! ## Discovery

What an evaluation depends on is found by a dry run against a lookup that writes
down each reference and answers with the origin. -/

/-- An evaluation that writes down references, the latest first. -/
abbrev Discovery := StateM (List FeatureRef)

namespace Discovery

def lookup {α : Type} [Scalar α] (ref : FeatureRef) : Discovery (Point α) :=
  fun requested => (.origin, ref :: requested)

def features {β : Type} (evaluation : Discovery β) : List FeatureRef :=
  FeatureRef.distinct (evaluation.run []).2

end Discovery

end PageSketch
