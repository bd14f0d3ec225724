import TrafficBoard.Dashboard.Board

/-!
# The redraw loop

The loop makes an interval of traffic and shows it, then waits. Each time an
interval has passed it clears the counters, makes the next interval and shows
that, so a frame shows the bytes of one interval alone. It ends when it is told
to stop, by a signal or otherwise, or when an interval cannot be made.

What comes from outside is given beforehand: how each wait ends, which intervals
fail, and what the name service answers.
-/

namespace TrafficBoard

/-- How a wait between two frames ends: the interval has passed, a signal has
arrived, or the wait was the last one. -/
inductive Pause where
  | elapsed
  | signal (number : Int)
  | over
  deriving DecidableEq, Repr

/-- What the loop meets. `fails` gives the reason why an interval, counted from
one, cannot be made. -/
structure Surroundings where
  sine : Double → Double
  answers : Address → LookupOutcome
  fails : Nat → Option String
  theme : Theme

/-- What the loop is started with. -/
structure LoopPlan where
  scenario : Scenario
  interval : Double
  resolveHostnames : Bool
  deriving Repr

/-- What the loop has done. -/
structure LoopTrace where
  board : Board
  frames : List Frame
  waits : Nat
  stopped : Bool
  failure : Option String
  notes : List LogNote

namespace LoopTrace

/-- The trace of a loop that has just started. -/
def start (board : Board) : LoopTrace := ⟨board, [], 0, false, none, []⟩

/-- Whether the screen was ever taken over: it is with the first frame. -/
def entered (trace : LoopTrace) : Bool := !trace.frames.isEmpty

/-- The trace with one more note. -/
def note (trace : LoopTrace) (level : LogLevel) (text : String) : LoopTrace :=
  { trace with notes := trace.notes ++ [⟨level, text⟩] }

/-- The trace of a loop that cannot go on. -/
def fail (trace : LoopTrace) (reason : String) : LoopTrace :=
  { trace with failure := some reason }

/-- Make the next interval of traffic; `number` counts the intervals from one. -/
def step (around : Surroundings) (number : Nat) (trace : LoopTrace) : LoopTrace :=
  match around.fails number with
  | some reason => trace.fail reason
  | none =>
      match trace.board.tick around.sine with
      | (board, none) => { trace with board := board }
      | (board, some error) => { trace with board := board, failure := some error.message }

/-- Show the frame of this moment. -/
def display (around : Surroundings) (trace : LoopTrace) : LoopTrace :=
  let outcome := trace.board.frame around.theme around.answers
  let trace := { trace with board := outcome.board, notes := trace.notes ++ outcome.notes }
  match outcome.result with
  | .ok frame => { trace with frames := trace.frames ++ [frame] }
  | .error error => trace.fail error.message

/-- Make an interval and show it, unless it cannot be made. -/
def stepAndDisplay (around : Surroundings) (number : Nat) (trace : LoopTrace) : LoopTrace :=
  let trace := trace.step around number
  match trace.failure with
  | none => trace.display around
  | some _ => trace

/-- Clear the counters. -/
def reset (trace : LoopTrace) : LoopTrace := { trace with board := trace.board.reset }

/-- Wait, make an interval and show it, again and again until the loop ends. -/
def proceed (around : Surroundings) (number : Nat) : List Pause → LoopTrace → LoopTrace
  | [], trace => trace
  | pause :: rest, trace =>
      match trace.failure with
      | some _ => trace
      | none =>
          let trace := { trace with waits := trace.waits + 1 }
          match pause with
          | .elapsed => proceed around (number + 1) rest (trace.reset.stepAndDisplay around number)
          | .signal received =>
              { trace.note .info ("Received signal " ++ toString received ++ ", stopping") with
                stopped := true }
          | .over => trace

/-- Give back what the loop holds: the failure that ended it is noted, and the lookup
service is shut down. -/
def finish (trace : LoopTrace) : LoopTrace :=
  let trace := match trace.failure with
    | some reason => trace.note .error ("Main loop error: " ++ reason)
    | none => trace
  let trace := match trace.board.lookups with
    | some service =>
        let (service, notes) := service.shutdown
        { trace with
          board := { trace.board with lookups := some service }
          notes := trace.notes ++ notes }
    | none => trace
  trace.note .info "Dashboard stopped"

end LoopTrace

namespace LoopPlan

/-- The word for a flag in notes. -/
def flagText (flag : Bool) : String := if flag then "True" else "False"

/-- The note with which a loop starts. -/
def startNote (plan : LoopPlan) : String :=
  "Starting dashboard (scenario=" ++ plan.scenario.name ++ ", interval=" ++ plan.interval.text ++
    "s, resolve=" ++ flagText plan.resolveHostnames ++ ")"

/-- The board of a loop before its first interval. -/
def board (plan : LoopPlan) : Board :=
  .start plan.scenario (some (.withOwnExecutor plan.resolveHostnames))

/-- The signals that stop the loop: an interrupt from the keyboard, and a request to
terminate. -/
def signals : List Int := [2, 15]

/-- Run the loop through the given pauses. -/
def run (plan : LoopPlan) (around : Surroundings) (pauses : List Pause) : LoopTrace :=
  ((LoopTrace.start plan.board).note .info plan.startNote
    |>.stepAndDisplay around 1
    |>.proceed around 2 pauses).finish

end LoopPlan

end TrafficBoard
