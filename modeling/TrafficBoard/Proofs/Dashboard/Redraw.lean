import TrafficBoard.Dashboard.Loop
import TrafficBoard.Proofs.Dashboard.Frames
import TrafficBoard.Proofs.Traffic.Amounts

/-!
# Each frame shows one interval

The redraw loop clears the counters before each interval but the first.  The generator
counts the intervals of the whole run, and its count is not cleared.  So the frame after
a number of intervals shows the next one and nothing of those before.
-/

namespace TrafficBoard

/-- A frame shows the interval after a number of others: it is made of what an empty ledger
shows when this interval alone is recorded in it. -/
def Frame.ShowsInterval (around : Surroundings) (scenario : Scenario) (before : Nat)
    (frame : Frame) : Prop :=
  ∃ (ledger : Ledger) (hostnames : Hostnames),
    Simulator.tick around.sine ⟨scenario, before⟩ .empty =
      (⟨scenario, before + 1⟩, ledger, none) ∧
    ledger.snapshot.ShowsInterval around.sine ⟨scenario, before⟩ ∧
    Tables.ofSnapshot ledger.snapshot hostnames = .ok frame.tables ∧
    Banner.header around.theme ledger.snapshot.total = .ok frame.header

/-- Why the loop can fail at an interval that comes after a number of others: the interval
is made to fail from outside, an amount is not a number, or a rate cannot be shown. -/
inductive Surroundings.Mishap (around : Surroundings) (scenario : Scenario) (before : Nat) :
    String → Prop where
  | injected {number : Nat} {reason : String} (fails : around.fails number = some reason) :
      Mishap around scenario before reason
  | unobserved {error : NumberError}
      (observed : Simulator.observeAll around.sine ⟨scenario, before⟩ (Flow.active scenario) =
        .error error) :
      Mishap around scenario before error.message
  | unshown {observations : List Observation} {error : NumberError}
      (observed : Simulator.observeAll around.sine ⟨scenario, before⟩ (Flow.active scenario) =
        .ok observations)
      (rates : ¬(Ledger.empty.addAll observations).snapshot.HasRates) :
      Mishap around scenario before error.message

namespace LoopTrace

variable {around : Surroundings} {scenario : Scenario} {trace : LoopTrace}

/-! ## Steps of the loop -/

theorem step_of_injected {number : Nat} {reason : String}
    (injected : around.fails number = some reason) :
    trace.step around number = trace.fail reason := by
  simp only [step, injected]

theorem step_of_tick {number : Nat} {simulator : Simulator} {ledger : Ledger}
    (injected : around.fails number = none)
    (ticked : trace.board.simulator.tick around.sine trace.board.ledger =
      (simulator, ledger, none)) :
    trace.step around number =
      { trace with board := { trace.board with simulator := simulator, ledger := ledger } } := by
  simp only [step, injected, Board.tick, ticked]

theorem step_of_failed_tick {number : Nat} {simulator : Simulator} {ledger : Ledger}
    {error : Simulator.Error} (injected : around.fails number = none)
    (failed : trace.board.simulator.tick around.sine trace.board.ledger =
      (simulator, ledger, some error)) :
    trace.step around number =
      { trace with
        board := { trace.board with simulator := simulator, ledger := ledger }
        failure := some error.message } := by
  simp only [step, injected, Board.tick, failed]

theorem simulator_frame (theme : Theme) (answers : Address → LookupOutcome) (board : Board) :
    (board.frame theme answers).board.simulator = board.simulator := by
  simp only [Board.frame, Board.tables, Board.request]
  cases board.lookups with
  | none => rfl
  | some service => rfl

theorem stepAndDisplay_of_failure {number : Nat} {reason : String}
    (failed : (trace.step around number).failure = some reason) :
    trace.stepAndDisplay around number = trace.step around number := by
  simp only [stepAndDisplay, failed]

/-- What shows the frame of this moment adds it, or the loop fails. -/
theorem display_cases (around : Surroundings) (trace : LoopTrace) :
    (∃ frame, (trace.board.frame around.theme around.answers).result = .ok frame ∧
      (trace.display around).failure = trace.failure ∧
      (trace.display around).frames = trace.frames ++ [frame] ∧
      (trace.display around).board.simulator = trace.board.simulator) ∨
    ∃ error, (trace.board.frame around.theme around.answers).result = .error error ∧
      (trace.display around).failure = some error.message ∧
      (trace.display around).frames = trace.frames := by
  cases shown : (trace.board.frame around.theme around.answers).result with
  | ok frame =>
      left
      refine ⟨frame, rfl, ?_, ?_, ?_⟩
      · simp only [display, shown]
      · simp only [display, shown]
      · simp only [display, shown]
        exact simulator_frame around.theme around.answers trace.board
  | error error =>
      right
      refine ⟨error, rfl, ?_, ?_⟩
      · simp only [display, shown]
        rfl
      · simp only [display, shown]
        rfl

/-- An interval that is made and shown adds its frame, or the loop fails. -/
theorem stepAndDisplay_cases (number : Nat) (going : trace.failure = none)
    (cleared : trace.board.ledger = .empty) {before : Nat}
    (simulator : trace.board.simulator = ⟨scenario, before⟩)
    (counts : Simulator.MovesCounts around.sine ⟨scenario, before⟩) :
    (∃ frame : Frame, frame.ShowsInterval around scenario before ∧
      (trace.stepAndDisplay around number).failure = none ∧
      (trace.stepAndDisplay around number).frames = trace.frames ++ [frame] ∧
      (trace.stepAndDisplay around number).board.simulator = ⟨scenario, before + 1⟩) ∨
    ∃ reason, around.Mishap scenario before reason ∧
      (trace.stepAndDisplay around number).failure = some reason ∧
      (trace.stepAndDisplay around number).frames = trace.frames := by
  cases injected : around.fails number with
  | some reason =>
      right
      have stepped : trace.step around number = trace.fail reason := step_of_injected injected
      have failed : (trace.step around number).failure = some reason := by
        rw [stepped]
        rfl
      rw [stepAndDisplay_of_failure failed]
      refine ⟨reason, .injected injected, failed, ?_⟩
      rw [stepped]
      rfl
  | none =>
      rcases Simulator.tick_cases counts .empty with
        ⟨observations, observed, ticked⟩ | ⟨recorded, error, observed, failedTick⟩
      · have ticking : trace.board.simulator.tick around.sine trace.board.ledger =
            (⟨scenario, before + 1⟩, Ledger.empty.addAll observations, none) := by
          rw [simulator, cleared]
          exact ticked
        have stepped := step_of_tick injected ticking
        have notFailed : (trace.step around number).failure = none := by
          rw [stepped]
          exact going
        have displayed : trace.stepAndDisplay around number =
            (trace.step around number).display around := by
          simp only [stepAndDisplay, notFailed]
        rw [displayed]
        rcases display_cases around (trace.step around number) with
          ⟨frame, shown, failure, frames, sameSimulator⟩ | ⟨error, notShown, failure, frames⟩
        · left
          rw [stepped] at shown
          obtain ⟨tables, header, -⟩ := Board.frame_eq_ok_iff.1 shown
          refine ⟨frame, ⟨_, _, ticked, Simulator.showsInterval_addAll observed, tables, header⟩,
            failure.trans notFailed, ?_, ?_⟩
          · rw [frames, stepped]
          · rw [sameSimulator, stepped]
        · right
          refine ⟨error.message, .unshown observed fun rates => ?_, failure, ?_⟩
          · rw [stepped] at notShown
            obtain ⟨frame, shown⟩ := Board.exists_frame around.theme around.answers
              ⟨Ledger.empty.addAll observations, ⟨scenario, before + 1⟩, trace.board.lookups⟩ rates
            cases shown.symm.trans notShown
          · rw [frames, stepped]
      · right
        have ticking : trace.board.simulator.tick around.sine trace.board.ledger =
            (⟨scenario, before⟩, recorded, some (.number error)) := by
          rw [simulator, cleared]
          exact failedTick
        have stepped := step_of_failed_tick injected ticking
        have failed : (trace.step around number).failure = some error.message := by
          rw [stepped]
          rfl
        rw [stepAndDisplay_of_failure failed]
        refine ⟨error.message, .unobserved observed, failed, ?_⟩
        rw [stepped]

/-! ## The whole loop -/

/-- What a loop has shown up to some moment: each frame shows its own interval, and the
generator has made as many intervals as there are frames unless the loop has failed. -/
structure IsOnTime (around : Surroundings) (scenario : Scenario) (trace : LoopTrace) : Prop where
  frames : ∀ (index : Nat) (frame : Frame), trace.frames[index]? = some frame →
    frame.ShowsInterval around scenario index
  simulator : trace.failure = none → trace.board.simulator = ⟨scenario, trace.frames.length⟩
  failure : ∀ reason, trace.failure = some reason →
    ∃ before, around.Mishap scenario before reason

theorem IsOnTime.stepAndDisplay (onTime : trace.IsOnTime around scenario) (number : Nat)
    (going : trace.failure = none) (cleared : trace.board.ledger = .empty)
    (counts : ∀ before : Nat, Simulator.MovesCounts around.sine ⟨scenario, before⟩) :
    (trace.stepAndDisplay around number).IsOnTime around scenario := by
  rcases stepAndDisplay_cases number going cleared (onTime.simulator going) (counts _) with
    ⟨frame, shows, failure, frames, simulator⟩ | ⟨reason, mishap, failure, frames⟩
  · constructor
    · intro index other member
      rw [frames] at member
      rcases Nat.lt_or_ge index trace.frames.length with early | late
      · rw [List.getElem?_append_left early] at member
        exact onTime.frames index other member
      · rw [List.getElem?_append_right late, List.getElem?_singleton] at member
        split at member
        · next last =>
            cases member
            rw [Nat.le_antisymm (Nat.sub_eq_zero_iff_le.1 last) late]
            exact shows
        · cases member
    · intro _
      rw [simulator, frames, List.length_append, List.length_singleton]
      rfl
    · intro reason failed
      rw [failure] at failed
      cases failed
  · constructor
    · rw [frames]
      exact onTime.frames
    · intro notFailed
      rw [failure] at notFailed
      cases notFailed
    · intro other failed
      rw [failure] at failed
      cases failed
      exact ⟨_, mishap⟩

theorem proceed_of_failure {reason : String} (failed : trace.failure = some reason)
    (number : Nat) (pauses : List Pause) : trace.proceed around number pauses = trace := by
  cases pauses with
  | nil => rfl
  | cons pause rest =>
      rw [LoopTrace.proceed]
      simp only [failed]

theorem proceed_elapsed (going : trace.failure = none) (number : Nat) (rest : List Pause) :
    trace.proceed around number (.elapsed :: rest) =
      (({ trace with waits := trace.waits + 1 } : LoopTrace).reset.stepAndDisplay around number
        ).proceed around (number + 1) rest := by
  obtain ⟨board, frames, waits, stopped, failure, notes⟩ := trace
  cases going
  rfl

/-- Any other pause ends the loop with what it has shown. -/
theorem proceed_ended (around : Surroundings) (trace : LoopTrace) {pause : Pause}
    (ended : pause ≠ .elapsed) (number : Nat) (rest : List Pause) :
    (trace.proceed around number (pause :: rest)).frames = trace.frames ∧
      (trace.proceed around number (pause :: rest)).failure = trace.failure ∧
      (trace.proceed around number (pause :: rest)).board = trace.board := by
  obtain ⟨board, frames, waits, stopped, failure, notes⟩ := trace
  cases failure with
  | some reason => exact ⟨rfl, rfl, rfl⟩
  | none =>
      cases pause with
      | elapsed => exact absurd rfl ended
      | signal received => exact ⟨rfl, rfl, rfl⟩
      | _ => exact ⟨rfl, rfl, rfl⟩

theorem IsOnTime.congr {other : LoopTrace} (onTime : trace.IsOnTime around scenario)
    (frames : other.frames = trace.frames) (failure : other.failure = trace.failure)
    (board : other.board = trace.board) : other.IsOnTime around scenario := by
  constructor
  · rw [frames]
    exact onTime.frames
  · rw [failure, board, frames]
    exact onTime.simulator
  · rw [failure]
    exact onTime.failure

/-- The frames go on to show their own intervals until the loop ends. -/
theorem IsOnTime.proceed (onTime : trace.IsOnTime around scenario)
    (counts : ∀ before : Nat, Simulator.MovesCounts around.sine ⟨scenario, before⟩)
    (number : Nat) (pauses : List Pause) :
    (trace.proceed around number pauses).IsOnTime around scenario := by
  induction pauses generalizing trace number with
  | nil => exact onTime
  | cons pause rest ih =>
      cases failure : trace.failure with
      | some reason =>
          rw [proceed_of_failure failure]
          exact onTime
      | none =>
          by_cases elapsed : pause = .elapsed
          · subst elapsed
            rw [proceed_elapsed failure]
            have waited : IsOnTime around scenario
                (LoopTrace.reset { trace with waits := trace.waits + 1 }) :=
              ⟨onTime.frames, onTime.simulator, onTime.failure⟩
            exact ih (waited.stepAndDisplay number failure rfl counts) (number + 1)
          · obtain ⟨frames, sameFailure, board⟩ := proceed_ended around trace elapsed number rest
            exact onTime.congr frames sameFailure board

/-- What is given back at the end takes nothing away. -/
theorem finish_eq (trace : LoopTrace) :
    trace.finish.frames = trace.frames ∧ trace.finish.failure = trace.failure := by
  obtain ⟨⟨ledger, simulator, lookups⟩, frames, waits, stopped, failure, notes⟩ := trace
  cases failure with
  | none => cases lookups <;> exact ⟨rfl, rfl⟩
  | some reason => cases lookups <;> exact ⟨rfl, rfl⟩

/-! ## Loops that do not fail -/

/-- With a sine between minus one and one, and nothing injected, no early interval fails. -/
theorem not_mishap (sineLike : Double.IsSineLike around.sine)
    (never : ∀ number, around.fails number = none) {before : Nat} (early : before ≤ 2 ^ 1022)
    (reason : String) : ¬around.Mishap scenario before reason := by
  intro mishap
  cases mishap with
  | injected fails => cases (never _).symm.trans fails
  | unobserved observed =>
      obtain ⟨observations, done⟩ := Simulator.exists_observeAll ⟨scenario, before⟩ sineLike early
      cases done.symm.trans observed
  | unshown observed rates =>
      exact rates ((Simulator.showsInterval_addAll observed).hasRates sineLike)

theorem IsOnTime.stepAndDisplay_goesOn (onTime : trace.IsOnTime around scenario) (number : Nat)
    (going : trace.failure = none) (cleared : trace.board.ledger = .empty)
    (sineLike : Double.IsSineLike around.sine) (never : ∀ number, around.fails number = none)
    (early : trace.frames.length ≤ 2 ^ 1022) :
    (trace.stepAndDisplay around number).failure = none ∧
      (trace.stepAndDisplay around number).frames.length = trace.frames.length + 1 := by
  rcases stepAndDisplay_cases number going cleared (onTime.simulator going)
    (Simulator.movesCounts_of_isSineLike sineLike _) with
    ⟨frame, shows, failure, frames, simulator⟩ | ⟨reason, mishap, failure, frames⟩
  · refine ⟨failure, ?_⟩
    rw [frames, List.length_append, List.length_singleton]
  · exact absurd mishap (not_mishap sineLike never early reason)

/-- The number of intervals that pass before another pause ends the loop. -/
def passedIntervals (pauses : List Pause) : Nat := (pauses.takeWhile (· = .elapsed)).length

theorem passedIntervals_elapsed (rest : List Pause) :
    passedIntervals (.elapsed :: rest) = passedIntervals rest + 1 := rfl

theorem passedIntervals_ended {pause : Pause} (ended : pause ≠ .elapsed) (rest : List Pause) :
    passedIntervals (pause :: rest) = 0 := by
  cases pause with
  | elapsed => exact absurd rfl ended
  | signal received => rfl
  | _ => rfl

/-- Such a loop shows one more frame for each interval that passes until it ends. -/
theorem IsOnTime.proceed_goesOn (onTime : trace.IsOnTime around scenario)
    (going : trace.failure = none) (sineLike : Double.IsSineLike around.sine)
    (never : ∀ number, around.fails number = none) (number : Nat) (pauses : List Pause)
    (early : trace.frames.length + pauses.length ≤ 2 ^ 1022) :
    (trace.proceed around number pauses).failure = none ∧
      (trace.proceed around number pauses).frames.length =
        trace.frames.length + passedIntervals pauses := by
  have counts : ∀ before : Nat, Simulator.MovesCounts around.sine ⟨scenario, before⟩ :=
    fun before => Simulator.movesCounts_of_isSineLike sineLike _
  induction pauses generalizing trace number with
  | nil => exact ⟨going, rfl⟩
  | cons pause rest ih =>
      rw [List.length_cons] at early
      by_cases elapsed : pause = .elapsed
      · subst elapsed
        rw [proceed_elapsed going, passedIntervals_elapsed]
        have waited : IsOnTime around scenario
            (LoopTrace.reset { trace with waits := trace.waits + 1 }) :=
          ⟨onTime.frames, onTime.simulator, onTime.failure⟩
        obtain ⟨stillGoing, length⟩ := waited.stepAndDisplay_goesOn number going rfl sineLike never
          (le_trans (Nat.le_add_right _ _) early)
        have shown := waited.stepAndDisplay number going rfl counts
        have later : trace.frames.length + 1 + rest.length ≤ 2 ^ 1022 := by
          rw [Nat.add_right_comm]
          exact early
        obtain ⟨failure, frames⟩ := ih shown stillGoing (number + 1) (length ▸ later)
        refine ⟨failure, ?_⟩
        rw [frames, length]
        exact Nat.add_right_comm ..
      · obtain ⟨frames, failure, -⟩ := proceed_ended around trace elapsed number rest
        rw [passedIntervals_ended elapsed, failure, frames]
        exact ⟨going, rfl⟩

end LoopTrace

namespace LoopPlan

/-- As long as no flow moves less than nothing, the ledger refuses nothing that the loop
records, whatever the pauses, and each frame shows one interval alone: the one whose number,
counted over the whole run, is that of the frame.  If the sine stays between minus one and
one at finite phases and no interval is made to fail from outside, there is a frame for the
first interval and one for each that passes. -/
theorem frames_show_one_interval (plan : LoopPlan) (around : Surroundings)
    (counts : ∀ before : Nat, Simulator.MovesCounts around.sine ⟨plan.scenario, before⟩) :
    (∀ (before : Nat) (ledger : Ledger) (error : Ledger.Error),
      (Simulator.tick around.sine ⟨plan.scenario, before⟩ ledger).2.2 ≠ some (.ledger error)) ∧
    (∀ pauses reason, (plan.run around pauses).failure = some reason →
      (∃ number, around.fails number = some reason) ∨
        ∃ error : NumberError, reason = error.message) ∧
    (∀ (pauses : List Pause) (index : Nat) (frame : Frame),
      (plan.run around pauses).frames[index]? = some frame →
        frame.ShowsInterval around plan.scenario index) ∧
    (Double.IsSineLike around.sine → (∀ number, around.fails number = none) →
      ∀ pauses : List Pause, pauses.length < 2 ^ 1022 →
        (plan.run around pauses).failure = none ∧
        (plan.run around pauses).frames.length = LoopTrace.passedIntervals pauses + 1) := by
  have started : LoopTrace.IsOnTime around plan.scenario
      ((LoopTrace.start plan.board).note .info plan.startNote) := by
    constructor
    · intro index frame member
      cases member
    · intro _
      rfl
    · intro reason failed
      cases failed
  have first := started.stepAndDisplay 1 rfl rfl counts
  refine ⟨?_, ?_, ?_, ?_⟩
  · intro before ledger error refused
    rcases Simulator.tick_cases (counts before) ledger with
      ⟨observations, -, ticked⟩ | ⟨recorded, other, -, ticked⟩
    · rw [ticked] at refused
      cases refused
    · rw [ticked] at refused
      cases refused
  · intro pauses reason failed
    rw [run, (LoopTrace.finish_eq _).2] at failed
    obtain ⟨before, mishap⟩ := (first.proceed counts 2 pauses).failure reason failed
    cases mishap with
    | injected fails => exact .inl ⟨_, fails⟩
    | unobserved observed => exact .inr ⟨_, rfl⟩
    | unshown observed rates => exact .inr ⟨_, rfl⟩
  · intro pauses index frame member
    rw [run, (LoopTrace.finish_eq _).1] at member
    exact (first.proceed counts 2 pauses).frames index frame member
  · intro sineLike never pauses short
    obtain ⟨going, length⟩ := started.stepAndDisplay_goesOn 1 rfl rfl sineLike never (Nat.zero_le _)
    rw [run, (LoopTrace.finish_eq _).1, (LoopTrace.finish_eq _).2]
    have early : 0 + 1 + pauses.length ≤ 2 ^ 1022 := by
      rw [Nat.zero_add, Nat.add_comm]
      exact short
    obtain ⟨failure, frames⟩ :=
      first.proceed_goesOn going sineLike never 2 pauses (length ▸ early)
    refine ⟨failure, ?_⟩
    rw [frames, length]
    exact Nat.add_comm ..

/-- The sine at the phases of the first two intervals of the idle scenario, and zero
elsewhere. -/
def idleSine (phase : Double) : Double :=
  if phase = .ofRatio false 12 4 then .finite false (0x1210386db6d55b * 2 ^ 1019)
  else if phase = .ofRatio false 13 4 then .finite true (0x1bb2ad2464a48c * 2 ^ 1018)
  else if phase = .ofRatio false 15 4 then .finite true (0x124a3af6750621 * 2 ^ 1021)
  else if phase = .ofRatio false 16 4 then .finite true (0x1837b9dddc1eae * 2 ^ 1021)
  else if phase = .ofRatio false 18 4 then .finite true (0x1f47ed3dc74080 * 2 ^ 1021)
  else if phase = .ofRatio false 19 4 then .finite true (0x1ffa34def8e460 * 2 ^ 1021)
  else .finite false 0

theorem isSineLike_idleSine : Double.IsSineLike idleSine := by
  intro phase _
  simp only [idleSine]
  repeat' split
  all_goals exact ⟨_, _, rfl, by decide +kernel⟩

/-- An idle loop that a signal stops after one more interval shows two frames.  The second
one shows less than the first, so nothing is left of the first. -/
theorem frames_show_one_interval_idle :
    let plan : LoopPlan := ⟨.idle, Double.ofInt 1, false⟩
    let around : Surroundings :=
      ⟨idleSine, fun _ => .surprise "unexpected", fun _ => none, .orange⟩
    ∃ first second : Frame,
      (plan.run around [.elapsed, .signal 2]).frames = [first, second] ∧
      first.ShowsInterval around .idle 0 ∧ second.ShowsInterval around .idle 1 ∧
      (Simulator.tick idleSine ⟨.idle, 0⟩ .empty).2.1.total = ⟨2426, 4566⟩ ∧
      (Simulator.tick idleSine ⟨.idle, 1⟩ .empty).2.1.total = ⟨2149, 4050⟩ := by
  intro plan around
  obtain ⟨-, -, shown, goesOn⟩ := frames_show_one_interval plan around
    fun before => Simulator.movesCounts_of_isSineLike isSineLike_idleSine _
  obtain ⟨-, length⟩ := goesOn isSineLike_idleSine (fun _ => rfl) [.elapsed, .signal 2]
    (by decide +kernel)
  obtain ⟨first, second, frames⟩ := List.length_eq_two.1 length
  refine ⟨first, second, frames, ?_, ?_, by decide +kernel, by decide +kernel⟩
  · exact shown [.elapsed, .signal 2] 0 first (by rw [frames]; rfl)
  · exact shown [.elapsed, .signal 2] 1 second (by rw [frames]; rfl)

end LoopPlan

end TrafficBoard
