import PageSketch.Failure
import PageSketch.Json.Reader

/-! # JSON values in files -/

namespace PageSketch.Json

def orFailure {β : Type} (decoded : Option β) : Except Failure β :=
  match decoded with
  | some value => .ok value
  | none => .error (.cause .json)

/-- What the contents of a file mean. A file that cannot be read has no contents. -/
def ofContents {α β : Type} [Scalar α] (decode : Json α → Option β)
    (contents : Option ByteArray) : Except Failure β :=
  match contents with
  | none => .error (.cause .io)
  | some bytes => orFailure ((ofBytes? bytes).bind decode)

end PageSketch.Json
