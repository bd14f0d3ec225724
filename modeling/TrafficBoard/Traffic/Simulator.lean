import TrafficBoard.Number.Double
import TrafficBoard.Traffic.Ledger
import TrafficBoard.Traffic.Scenario

/-!
# Generated traffic

Nine fixed flows stand for the traffic of a machine. In each interval a flow
moves its base rates times a factor, which swings around one as a slow wave.
In a burst one flow after another rises far above the rest; in the idle
scenario only name resolution and remote shells move anything.

The wave is given by a sine function, which is a parameter: all that is said
about the traffic holds for whatever function takes its place.
-/

namespace TrafficBoard

/-- A connection with its owner and its base rates in bytes per interval. -/
structure Flow where
  process : String
  interface : String
  connection : Connection
  rates : Volume
  deriving DecidableEq, Repr

namespace Flow

/-- The flows, in the order in which each interval records them. -/
def all : List Flow := [
  ⟨"firefox", "eth0", ⟨.four 93 184 216 34, 443, .tcp, 51234⟩, ⟨12000, 480000⟩⟩,
  ⟨"firefox", "eth0", ⟨.four 151 101 1 69, 443, .tcp, 51240⟩, ⟨4500, 96000⟩⟩,
  ⟨"firefox", "eth0",
    ⟨.six ⟨[0x2606, 0x4700, 0x4700, 0, 0, 0, 0, 0x1111], rfl⟩ none, 443, .tcp, 51252⟩,
    ⟨900, 15000⟩⟩,
  ⟨"syncthing-relay-worker", "eth0", ⟨.four 198 51 100 23, 22067, .tcp, 22000⟩, ⟨1250000, 40000⟩⟩,
  ⟨"ssh", "wlan0", ⟨.four 203 0 113 7, 22, .tcp, 40022⟩, ⟨2100, 3800⟩⟩,
  ⟨"systemd-resolved", "eth0", ⟨.four 1 1 1 1, 53, .udp, 53011⟩, ⟨150, 420⟩⟩,
  ⟨"systemd-resolved", "eth0", ⟨.four 8 8 8 8, 53, .udp, 53012⟩, ⟨140, 390⟩⟩,
  ⟨"spotify", "wlan0", ⟨.four 35 186 224 25, 4070, .tcp, 57001⟩, ⟨3000, 320000⟩⟩,
  ⟨"docker-proxy", "docker0", ⟨.four 172 17 0 2, 80, .tcp, 8080⟩, ⟨64000, 64000⟩⟩]

/-- Whether a flow moves anything in the idle scenario. -/
def isQuiet (flow : Flow) : Bool := flow.process = "systemd-resolved" || flow.process = "ssh"

/-- The flows that move anything in a scenario, each with its position among all. -/
def active (scenario : Scenario) : List (Nat × Flow) :=
  let numbered := (List.range all.length).zip all
  match scenario with
  | .idle => numbered.filter (·.2.isQuiet)
  | _ => numbered

end Flow

/-- A generator of traffic, which counts the intervals it has made. -/
structure Simulator where
  scenario : Scenario
  ticks : Int
  deriving DecidableEq, Repr

namespace Simulator

/-- A generator that has made no interval yet. -/
def start (scenario : Scenario) : Simulator := ⟨scenario, 0⟩

/-- The slow wave of a flow: one, and half of the sine of its phase. -/
def wave (sine : Double → Double) (ticks : Int) (index : Nat) : Except NumberError Double := do
  let phase ← Double.ofCount (ticks + index * 3)
  let swing := (Double.ofRatio false 1 2).mul (sine (phase.divNat 4))
  return (Double.ofInt 1).add swing

/-- The flow that rises above the rest: each for five intervals in turn. -/
def spiking (ticks : Int) : Int := (ticks / 5) % Flow.all.length

/-- The factor of a flow in the next interval. -/
def factor (sine : Double → Double) (simulator : Simulator) (index : Nat) :
    Except NumberError Double := do
  let wave ← wave sine simulator.ticks index
  match simulator.scenario with
  | .burst =>
      return wave.mul
        (if (index : Int) = spiking simulator.ticks then Double.ofInt 20 else Double.ofRatio false 1 5)
  | _ => return wave

/-- A base rate times a factor, in whole bytes. -/
def amount (rate : Int) (factor : Double) : Except NumberError Int :=
  ((Double.ofInt rate).mul factor).truncate

/-- Why an interval ends before all its flows are recorded. -/
inductive Error where
  | number (error : NumberError)
  | ledger (error : Ledger.Error)
  deriving DecidableEq, Repr

/-- What the error says. -/
def Error.message : Error → String
  | .number error => error.message
  | .ledger error => error.message

/-- What a flow moves in the next interval. -/
def observe (sine : Double → Double) (simulator : Simulator) (index : Nat) (flow : Flow) :
    Except NumberError Observation := do
  let factor ← simulator.factor sine index
  let up ← amount flow.rates.up factor
  let down ← amount flow.rates.down factor
  return ⟨flow.connection, flow.process, flow.interface, ⟨up, down⟩⟩

/-- Record what a flow moves in the next interval. -/
def recordFlow (sine : Double → Double) (simulator : Simulator) (ledger : Ledger) (index : Nat)
    (flow : Flow) : Except Error Ledger := do
  let observation ← (simulator.observe sine index flow).mapError .number
  (ledger.record observation).mapError .ledger

/-- Go on with what an attempt to record has made of a ledger. Where the attempt has
failed, the ledger stays as it was. -/
def recordNext (ledger : Ledger) (next : Ledger → Ledger × Option Error) :
    Except Error Ledger → Ledger × Option Error
  | .ok later => next later
  | .error error => (ledger, some error)

/-- Record flows one after another up to the first that fails. What is recorded
before a failure stays. -/
def recordFlows (sine : Double → Double) (simulator : Simulator) :
    List (Nat × Flow) → Ledger → Ledger × Option Error
  | [], ledger => (ledger, none)
  | (index, flow) :: rest, ledger =>
      recordNext ledger (fun later => recordFlows sine simulator rest later)
        (simulator.recordFlow sine ledger index flow)

/-- Make one interval of traffic. It counts only if every flow is recorded. -/
def tick (sine : Double → Double) (simulator : Simulator) (ledger : Ledger) :
    Simulator × Ledger × Option Error :=
  match simulator.recordFlows sine (Flow.active simulator.scenario) ledger with
  | (ledger, none) => ({ simulator with ticks := simulator.ticks + 1 }, ledger, none)
  | (ledger, some error) => (simulator, ledger, some error)

end Simulator

end TrafficBoard
