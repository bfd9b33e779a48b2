import PageSketch.Failure

/-! # Tags

Tags are kept sorted. No tag is empty, and none is given twice. -/

namespace PageSketch

structure TagProblems where
  hasEmpty : Bool
  /-- The tags that are given more than once, in order. -/
  repeated : List String
deriving DecidableEq, Repr

namespace TagProblems

def texts (problems : TagProblems) : List String :=
  (if problems.hasEmpty then ["empty tags are forbidden"] else [])
    ++ (if problems.repeated.isEmpty then []
      else ["duplicated tags " ++ Text.quotedList problems.repeated])

def toFailure (problems : TagProblems) : Failure :=
  .classified .badConfig "tags" (.cause (.invalidTags ("; ".intercalate problems.texts)))

end TagProblems

namespace Tags

def sort (tags : List String) : List String := tags.mergeSort fun a b => a ≤ b

/-- The tags of a sorted list that occur more than once, each told once. An empty
tag is not among them, as it is a problem of its own. -/
def repeated (tags : List String) : List String :=
  tags.eraseDups.filter fun tag => tag ≠ "" ∧ 1 < tags.count tag

def check (tags : List String) : Except TagProblems (List String) :=
  let sorted := sort tags
  let problems : TagProblems := ⟨sorted.contains "", repeated sorted⟩
  if problems.texts.isEmpty then .ok sorted else .error problems

end Tags

end PageSketch
