import PageSketch.CommandLine.Analyze
import PageSketch.CommandLine.Dump

/-! # Commands -/

namespace PageSketch.CommandLine

inductive Command (α : Type) where
  | analyze (command : AnalyzeCommand α)
  | dump (command : DumpCommand)

namespace Command

variable {α : Type} [Scalar α]

def read (name : String) (arguments : List String) : Except ArgumentStop (Command α) := do
  match name with
  | "analyze-sketch" =>
      let given ← Arguments.read (AnalyzeCommand.rules α) arguments
      (AnalyzeCommand.ofArguments? given).elim (.error .invalid) fun command =>
        .ok (.analyze command)
  | "dump-elements" =>
      let given ← Arguments.read DumpCommand.rules arguments
      (DumpCommand.ofArguments? given).elim (.error .invalid) fun command => .ok (.dump command)
  | _ => .error .invalid

variable [SpatialIndex α]

def runIn {m : Type → Type} [Monad m] (command : Command α) (world : World m) : m (Outcome α) :=
  Outcome.ofExcept <$> ExceptT.run
    (match command with
    | .analyze command => command.run world
    | .dump command => command.run world)

def run (command : Command α) (surroundings : Surroundings) : Outcome α :=
  (surroundings.timeline.follow (command.runIn surroundings.world)).1

end Command

/-! ## Exit -/

def successStatus : UInt32 := 0

def failureStatus : UInt32 := 1

/-- The status of a program that was not given what it needs. -/
def usageStatus : UInt32 := 2

/-- The status of a program that reached a limit of the machine. -/
def abortStatus : UInt32 := 101

def ArgumentStop.status : ArgumentStop → UInt32
  | .question => successStatus
  | .invalid => usageStatus

end PageSketch.CommandLine
