import TrafficBoard.CommandLine.Launch
import TrafficBoard.Number.Sine

/-!
# The program

The layer that meets the outside world: it reads the environment and the file of
environment variables, prints frames and writes the log. No name service is
asked, so every lookup fails and addresses stay on the screen as they are. The
account is not looked up either, so only the environment names a home directory.
-/

namespace TrafficBoard.CommandLine

/-- The text of a file, if it can be read. -/
def readText? (path : String) : IO (Option String) := do
  try
    return some (← IO.FS.readFile path)
  catch _ =>
    return none

/-- The environment variables that the settings, the terminal and a file of variables
refer to. -/
def readEnvironment (file : Option String) : IO (Keyed String String) := do
  let referred := match file with
    | some text => EnvFile.references text
    | none => []
  let names := Settings.names ++ ["HOME", "COLUMNS", "LINES"] ++ referred
  let mut environment := Keyed.empty
  for name in names do
    match ← IO.getEnv name with
    | some value => environment := environment.insert name value
    | none => pure ()
  return environment

/-- A positive number that the environment gives, or the one to use otherwise. -/
def sizeFrom (environment : Keyed String String) (name : String) (otherwise : Nat) : Nat :=
  match (environment.find? name).bind Literal.anyWhole? with
  | some size => if 0 < size then size.toNat else otherwise
  | none => otherwise

/-- The answer of a name service that is not there. -/
def noNameService (_ : Address) : LookupOutcome := .failure "No name service is available."

/-- What the loop meets on this machine. -/
def surroundings (settings : Settings) : Surroundings where
  sine := Double.sine
  answers := noNameService
  fails := fun _ => none
  theme := settings.appearance.theme

/-- The milliseconds of an interval given in seconds. -/
def milliseconds (interval : Double) : UInt32 :=
  match (interval.mul (Double.ofInt 1000)).truncate with
  | .ok count => UInt32.ofNat (min count.toNat 0xFFFFFFFF)
  | .error _ => UInt32.ofNat 0xFFFFFFFF

/-- Write the notes of a trace that are severe enough to the log; the trace holds none
afterwards. -/
def writeNotes (log : IO.FS.Handle) (threshold : Nat) (trace : LoopTrace) : IO LoopTrace := do
  for note in trace.notes do
    if threshold ≤ note.level.severity then
      log.putStrLn (note.level.name ++ " " ++ note.text)
  log.flush
  return { trace with notes := [] }

/-- Print the newest frame of a trace over the one before it. A frame that cannot be
drawn ends the loop. -/
def printFrame (settings : Settings) (width height : Nat) (trace : LoopTrace) : IO LoopTrace := do
  match trace.frames.getLast? with
  | none => return trace
  | some frame =>
      match frame.draw settings.appearance width height with
      | .error error => return trace.fail error.message
      | .ok lines =>
          let output ← IO.getStdout
          output.putStr "\x1b[2J\x1b[H"
          output.putStr ("\n".intercalate lines)
          output.flush
          return trace

/-- Show interval after interval until one cannot be made. -/
partial def redraw (launch : Launch) (log : IO.FS.Handle) (severity width height number : Nat)
    (trace : LoopTrace) : IO LoopTrace := do
  let around := surroundings launch.settings
  let trace ← printFrame launch.settings width height (trace.stepAndDisplay around number)
  match trace.failure with
  | some _ => return trace
  | none =>
      let (board, notes) := trace.board.completeLookups around.answers
      let trace := { trace with board := board, notes := trace.notes ++ notes, frames := [] }
      let trace ← writeNotes log severity trace
      IO.sleep (milliseconds launch.plan.interval)
      redraw launch log severity width height (number + 1) trace.reset

/-- Run the dashboard with a log that holds the notes from a severity on. -/
def runDashboard (launch : Launch) (severity : Nat) (environment : Keyed String String) :
    IO Unit := do
  if launch.log.directory ≠ "" then IO.FS.createDirAll launch.log.directory
  let log ← IO.FS.Handle.mk launch.log.file (if launch.log.truncate then .write else .append)
  let plan := launch.plan
  let start := (LoopTrace.start plan.board).note .info plan.startNote
  let width := sizeFrom environment "COLUMNS" 80
  let height := sizeFrom environment "LINES" 24
  let trace ← redraw launch log severity width height 1 start
  let _ ← writeNotes log severity trace.finish

/-- Launch the dashboard, or say why it cannot run; gives the exit code. -/
def runProgram (arguments : List String) : IO UInt32 := do
  let file ← readText? ".env"
  let environment ← readEnvironment file
  let result := launch arguments environment file [] none
  match result.outcome with
  | .error ending =>
      IO.print (ending.output result.environment)
      IO.eprint (ending.errorOutput result.environment)
      return UInt32.ofNat ending.exitCode
  | .ok launch =>
      match launch.log.threshold with
      | .severity severity =>
          runDashboard launch severity result.environment
          return 0
      | .form text =>
          IO.eprintln ("Unknown level: " ++ Text.quoted text)
          return 1

end TrafficBoard.CommandLine

/-- The program. -/
def main (arguments : List String) : IO UInt32 := TrafficBoard.CommandLine.runProgram arguments
