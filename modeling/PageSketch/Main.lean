import PageSketch.CommandLine.Command
import PageSketch.Json.Printer
import PageSketch.Scalar.Binary

/-! # The program

The first argument names the command. Output is JSON, failures go to the error
stream. -/

namespace PageSketch.CommandLine

def readContents (path : String) : IO (Option ByteArray) := do
  try
    return some (← IO.FS.readBinFile path)
  catch _ =>
    return none

/-- The time by the clock. Seconds are counted from the start of the program, so that a
deadline passes when its whole seconds have passed. -/
def lookAtClock (start : Nat) : IO Signals := do
  let milliseconds ← IO.monoMsNow
  return { now := start / 1000 + (milliseconds - start) / 1000 }

def outputText (output : Json Float) : String :=
  output.pretty (fun value => (Scalar.Binary.shortest? value).getD "null") 0 ++ "\n"

def tellFailure (failure : Failure) : IO UInt32 := do
  IO.eprintln ("Error: " ++ failure.headline)
  match failure.inner? with
  | some inner => IO.eprintln ("\nCaused by:\n    " ++ inner.message)
  | none => pure ()
  return failureStatus

def deliver (outcome : Outcome Float) : IO UInt32 := do
  match outcome with
  | .printed output =>
      IO.print (outputText output)
      return successStatus
  | .written path output =>
      try
        IO.FS.writeFile path (outputText output)
        return successStatus
      catch _ =>
        tellFailure (Outcome.creationFailure path)
  | .failed failure => tellFailure failure
  | .beyondClock =>
      IO.eprintln "error: the deadline is beyond the clock"
      return abortStatus

def information : String :=
  "usage: analyze-sketch [options] <content> <sketch>\n       dump-elements [options] <content>"

def runArguments (arguments : List String) : IO UInt32 := do
  let command : Except ArgumentStop (Command Float) :=
    Command.read (arguments.headD "") arguments.tail
  match command with
  | .error stop =>
      match stop with
      | .question => IO.println information
      | .invalid => IO.eprintln "error: invalid arguments"
      return stop.status
  | .ok command =>
      let start ← IO.monoMsNow
      deliver (← command.runIn { contents := readContents, look := lookAtClock start })

end PageSketch.CommandLine

def main (arguments : List String) : IO UInt32 :=
  PageSketch.CommandLine.runArguments arguments
