import TrafficBoard.Proofs.Attempts
import TrafficBoard.Proofs.Number.Magnitude
import TrafficBoard.Proofs.Traffic.Recording
import TrafficBoard.Proofs.Traffic.Views
import TrafficBoard.Traffic.Simulator

/-!
# One interval of traffic

As long as no flow moves less than nothing, the ledger refuses none of what an interval
makes.  An empty ledger then shows after the interval exactly what the active flows
moved in it.

No flow moves less than nothing if the sine stays between minus one and one.
-/

namespace TrafficBoard

namespace Simulator

variable {sine : Double → Double} {simulator : Simulator}

/-- What flows move in the next interval, in their order. -/
def observeAll (sine : Double → Double) (simulator : Simulator) (flows : List (Nat × Flow)) :
    Except NumberError (List Observation) :=
  flows.mapM fun numbered => simulator.observe sine numbered.1 numbered.2

/-- No flow moves less than nothing in the next interval. -/
def MovesCounts (sine : Double → Double) (simulator : Simulator) : Prop :=
  ∀ numbered ∈ Flow.active simulator.scenario, ∀ observation,
    simulator.observe sine numbered.1 numbered.2 = .ok observation → observation.volume.IsCount

/-! ## Recording -/

theorem observeAll_cons (numbered : Nat × Flow) (rest : List (Nat × Flow)) :
    simulator.observeAll sine (numbered :: rest) = do
      let observation ← simulator.observe sine numbered.1 numbered.2
      let observations ← simulator.observeAll sine rest
      return observation :: observations :=
  List.mapM_cons

theorem recordFlow_of_error {index : Nat} {flow : Flow} {error : NumberError}
    (observed : simulator.observe sine index flow = .error error) (ledger : Ledger) :
    simulator.recordFlow sine ledger index flow = .error (.number error) := by
  rw [recordFlow, observed]
  rfl

theorem recordFlow_of_isCount {index : Nat} {flow : Flow} {observation : Observation}
    (observed : simulator.observe sine index flow = .ok observation)
    (count : observation.volume.IsCount) (ledger : Ledger) :
    simulator.recordFlow sine ledger index flow = .ok (ledger.add observation) := by
  rw [recordFlow, observed]
  exact congrArg (Except.mapError Error.ledger) (Ledger.record_of_isCount count ledger)

/-- Flows are recorded unless the amounts of one are not numbers. -/
theorem recordFlows_cases {flows : List (Nat × Flow)}
    (counts : ∀ numbered ∈ flows, ∀ observation,
      simulator.observe sine numbered.1 numbered.2 = .ok observation → observation.volume.IsCount)
    (ledger : Ledger) :
    (∃ observations, simulator.observeAll sine flows = .ok observations ∧
      simulator.recordFlows sine flows ledger = (ledger.addAll observations, none)) ∨
    ∃ recorded error, simulator.observeAll sine flows = .error error ∧
      simulator.recordFlows sine flows ledger = (recorded, some (.number error)) := by
  induction flows generalizing ledger with
  | nil => exact .inl ⟨[], rfl, rfl⟩
  | cons numbered rest ih =>
      obtain ⟨index, flow⟩ := numbered
      rw [recordFlows, observeAll_cons]
      cases observed : simulator.observe sine index flow with
      | error error =>
          rw [recordFlow_of_error observed]
          exact .inr ⟨ledger, error, rfl, rfl⟩
      | ok observation =>
          have count := counts _ List.mem_cons_self observation observed
          rw [recordFlow_of_isCount observed count]
          rcases ih (fun other member => counts other (List.mem_cons_of_mem _ member))
            (ledger.add observation) with ⟨observations, all, done⟩ | ⟨recorded, error, some, failed⟩
          · rw [all]
            exact .inl ⟨observation :: observations, rfl, done⟩
          · rw [some]
            exact .inr ⟨recorded, error, rfl, failed⟩

/-- An interval is recorded as a whole unless the amounts of a flow are not numbers. -/
theorem tick_cases (counts : simulator.MovesCounts sine) (ledger : Ledger) :
    (∃ observations,
      simulator.observeAll sine (Flow.active simulator.scenario) = .ok observations ∧
      simulator.tick sine ledger =
        ({ simulator with ticks := simulator.ticks + 1 }, ledger.addAll observations, none)) ∨
    ∃ recorded error,
      simulator.observeAll sine (Flow.active simulator.scenario) = .error error ∧
      simulator.tick sine ledger = (simulator, recorded, some (.number error)) := by
  rcases recordFlows_cases counts ledger with
    ⟨observations, observed, done⟩ | ⟨recorded, error, observed, failed⟩
  · left
    refine ⟨observations, observed, ?_⟩
    rw [tick, done]
  · right
    refine ⟨recorded, error, observed, ?_⟩
    rw [tick, failed]

end Simulator

/-! ## What an interval shows -/

/-- A connection shows what a flow moves in the next interval. -/
structure Flow.IsShownBy (sine : Double → Double) (simulator : Simulator) (numbered : Nat × Flow)
    (entry : Connection × ConnectionUse) : Prop where
  connection : entry.1 = numbered.2.connection
  process : entry.2.process = numbered.2.process
  interface : entry.2.interface = numbered.2.interface
  volume : ∃ factor, simulator.factor sine numbered.1 = .ok factor ∧
    Simulator.amount numbered.2.rates.up factor = .ok entry.2.volume.up ∧
    Simulator.amount numbered.2.rates.down factor = .ok entry.2.volume.down

/-- A snapshot shows the next interval and nothing else: each active flow as a connection,
in order, the groups of these connections, and their sum. -/
structure Snapshot.ShowsInterval (sine : Double → Double) (simulator : Simulator)
    (snapshot : Snapshot) : Prop where
  connections : List.Forall₂ (Flow.IsShownBy sine simulator) (Flow.active simulator.scenario)
    snapshot.connections.entries
  processes : Ledger.IsGrouping (·.2.process) snapshot.connections.entries snapshot.processes
  remotes : Ledger.IsGrouping (·.1.address) snapshot.connections.entries snapshot.remotes
  total : snapshot.total = (snapshot.connections.entries.map (·.2.volume)).sum

namespace Simulator

variable {sine : Double → Double} {simulator : Simulator}

/-- Different flows have different connections. -/
theorem nodup_connection_active (scenario : Scenario) :
    ((Flow.active scenario).map (·.2.connection)).Nodup := by
  cases scenario <;> decide

theorem observe_eq_ok_iff {index : Nat} {flow : Flow} {observation : Observation} :
    simulator.observe sine index flow = .ok observation ↔
      observation.connection = flow.connection ∧ observation.process = flow.process ∧
      observation.interface = flow.interface ∧
      ∃ factor, simulator.factor sine index = .ok factor ∧
        amount flow.rates.up factor = .ok observation.volume.up ∧
        amount flow.rates.down factor = .ok observation.volume.down := by
  simp only [observe, Attempt.bind_eq_ok_iff]
  constructor
  · rintro ⟨factor, factorDone, up, upDone, down, downDone, same⟩
    cases same
    exact ⟨rfl, rfl, rfl, factor, factorDone, upDone, downDone⟩
  · rintro ⟨connection, process, interface, factor, factorDone, upDone, downDone⟩
    refine ⟨factor, factorDone, _, upDone, _, downDone, ?_⟩
    rw [← connection, ← process, ← interface]
    rfl

/-- An empty ledger shows after an interval what the flows moved in it. -/
theorem showsInterval_addAll {observations : List Observation}
    (observed : simulator.observeAll sine (Flow.active simulator.scenario) = .ok observations) :
    (Ledger.empty.addAll observations).snapshot.ShowsInterval sine simulator := by
  have pointwise := Attempt.mapM_eq_ok_iff.1 observed
  have connections : observations.map (·.connection) =
      (Flow.active simulator.scenario).map (·.2.connection) := by
    symm
    rw [← List.forall₂_eq_eq_eq, List.forall₂_map_left_iff, List.forall₂_map_right_iff]
    exact pointwise.imp fun _ _ done => (observe_eq_ok_iff.1 done).1.symm
  have entries := Ledger.entries_addAll_empty
    (connections ▸ nodup_connection_active simulator.scenario)
  constructor
  · change List.Forall₂ _ _ (Ledger.empty.addAll observations).connections.entries
    rw [entries, List.forall₂_map_right_iff]
    refine pointwise.imp fun _ _ done => ?_
    obtain ⟨connection, process, interface, volume⟩ := observe_eq_ok_iff.1 done
    exact ⟨connection, process, interface, volume⟩
  · simp only [Ledger.snapshot, Snapshot.ofConnections, Ledger.groupUses_eq_groupsOf]
    exact Ledger.isGrouping_groupsOf _ _
  · simp only [Ledger.snapshot, Snapshot.ofConnections, Ledger.groupUses_eq_groupsOf]
    exact Ledger.isGrouping_groupsOf _ _
  · change (Ledger.empty.addAll observations).total =
      ((Ledger.empty.addAll observations).connections.entries.map (·.2.volume)).sum
    rw [entries, List.map_map, Ledger.total_addAll]
    exact zero_add _

end Simulator

end TrafficBoard
