import PageSketch.Sketch.Node

/-! # Reports

A report on a page keeps the results of its nodes by name, in the order in which
they were entered. -/

namespace PageSketch

structure PageReport (α : Type) where
  number : PageNumber
  size : Size α
  results : List (NodeResult α)

namespace PageReport

variable {α : Type}

def empty (page : Page α) : PageReport α where
  number := page.number
  size := page.size
  results := []

/-- Enters a result into a list. It takes the place of one with the same name. -/
def insertResult (result : NodeResult α) : List (NodeResult α) → List (NodeResult α)
  | [] => [result]
  | first :: rest =>
      if first.name = result.name then result :: rest else first :: insertResult result rest

def insert (report : PageReport α) (result : NodeResult α) : PageReport α :=
  { report with results := insertResult result report.results }

def find? (report : PageReport α) (name : String) : Option (NodeResult α) :=
  report.results.find? fun result => result.name = name

/-- Where a feature is, as far as the report knows. -/
def lookup [Scalar α] (report : PageReport α) : FeatureLookup α := fun ref =>
  match report.find? ref.node with
  | some result => result.featurePosition ref.feature
  | none => .error (.cause (.positionUnknown ("node " ++ Text.quoted ref.node ++ " not found")))

end PageReport

structure DocumentReport (α : Type) where
  tags : List String
  pages : List (PageReport α)

end PageSketch
