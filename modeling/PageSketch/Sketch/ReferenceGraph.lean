import PageSketch.Area.Feature

/-! # References between nodes

Nodes are numbered in the order in which they are declared. A node refers to others
by name, through the features on which its areas depend. -/

namespace PageSketch

inductive OrderProblem where
  /-- A name is used again after its first use for the node numbered `first`. -/
  | repeatedName (name : String) (first : Nat)
  | unknownNode (node missing : String)
  | noSuchFeature (node other : String) (feature : Feature)
  /-- Following references along the path leads back to a node on it. -/
  | cycle (path : List String)
deriving DecidableEq, Repr

namespace OrderProblem

def toFailure : OrderProblem → Failure
  | .repeatedName name first =>
      .cause (.badConfig ("multiple nodes with name " ++ Text.quoted name
        ++ ", first occurrence at index " ++ toString first))
  | .unknownNode node missing =>
      .cause (.badConfig ("node " ++ Text.quoted node ++ ": referenced node "
        ++ Text.quoted missing ++ " not found"))
  | .noSuchFeature node other feature =>
      .classified .badConfig ("node " ++ Text.quoted node)
        (.cause (.featureUnavailable
          ("node " ++ Text.quoted other ++ " lacks feature " ++ feature.name)))
  | .cycle path =>
      .cause (.badConfig ("recursive node reference: " ++ " → ".intercalate path))

end OrderProblem

/-- Nodes with their names and with the features to which they refer, in order. -/
@[ext] structure ReferenceGraph (count : Nat) where
  name : Fin count → String
  references : Fin count → List FeatureRef

namespace ReferenceGraph

variable {count : Nat} (graph : ReferenceGraph count)

def RefersTo (node other : Fin count) : Prop :=
  ∃ ref ∈ graph.references node, ref.node = graph.name other

def indexOf? (name : String) : Option (Fin count) :=
  (List.finRange count).find? fun node => graph.name node = name

/-- The first node whose name has been used before. -/
def repeatedName? : Option OrderProblem :=
  (List.finRange count).findSome? fun node =>
    ((List.finRange count).find? fun earlier =>
      earlier < node ∧ graph.name earlier = graph.name node).map fun earlier =>
        .repeatedName (graph.name node) earlier

def target (node : Fin count) (ref : FeatureRef) : Except OrderProblem (Fin count) :=
  match graph.indexOf? ref.node with
  | none => .error (.unknownNode (graph.name node) ref.node)
  | some other =>
      if ref.feature.isPoint then .ok other
      else .error (.noSuchFeature (graph.name node) (graph.name other) ref.feature)

/-- The problem of a path, latest node first, from which `other` is reached again. -/
def cycleProblem (path : List (Fin count)) (other : Fin count) : OrderProblem :=
  .cycle ((path.reverse ++ [other]).map graph.name)

def countOutside (nodes : List (Fin count)) : Nat :=
  ((List.finRange count).filter (· ∉ nodes)).length

theorem countOutside_cons_lt {node : Fin count} {nodes : List (Fin count)}
    (fresh : node ∉ nodes) : countOutside (node :: nodes) < countOutside nodes := by
  have split : (List.finRange count).filter (· ∉ node :: nodes) =
      ((List.finRange count).filter (· ∉ nodes)).filter (· ≠ node) := by
    rw [List.filter_filter]
    congr 1
    funext other
    simp [not_or]
  rw [countOutside, split]
  refine List.length_filter_lt_length_iff_exists.mpr ⟨node, ?_, by simp⟩
  simpa using fresh

end ReferenceGraph

end PageSketch
