import TrafficBoard.Traffic.Snapshot

/-!
# The ledger

The ledger adds up observed bytes for each connection and overall. The names of
the owner of a connection are those of its first record. Forgetting a
connection drops its own volume and keeps it in the overall total; a reset
drops both.
-/

namespace TrafficBoard

/-- The volumes of the connections seen, and the overall total. -/
structure Ledger where
  connections : Keyed Connection ConnectionUse
  total : Volume
  deriving Inhabited

/-- Bytes observed on a connection of a process on an interface. -/
structure Observation where
  connection : Connection
  process : String
  interface : String
  volume : Volume
  deriving DecidableEq, Repr

namespace Ledger

/-- A ledger that has seen nothing. -/
def empty : Ledger := ⟨.empty, Volume.none⟩

/-- Why an observation is refused. -/
inductive Error where
  | negativeCount
  deriving DecidableEq, Repr

/-- What the error says. -/
def Error.message : Error → String
  | .negativeCount => "byte counts must be non-negative"

/-- Add an observation, whose counts are known not to be negative. -/
def add (ledger : Ledger) (observation : Observation) : Ledger where
  connections := ledger.connections.update observation.connection
    ⟨observation.process, observation.interface, Volume.none⟩
    fun use => { use with volume := use.volume + observation.volume }
  total := ledger.total + observation.volume

/-- Add an observation. A negative count is refused. -/
def record (ledger : Ledger) (observation : Observation) : Except Error Ledger :=
  if observation.volume.up < 0 ∨ observation.volume.down < 0 then .error .negativeCount
  else .ok (ledger.add observation)

/-- Drop a connection and keep its bytes in the overall total. -/
def forget (ledger : Ledger) (connection : Connection) : Ledger :=
  { ledger with connections := ledger.connections.erase connection }

/-- Drop every connection and the overall total. -/
def reset (_ : Ledger) : Ledger := empty

/-- The volumes of this moment. -/
def snapshot (ledger : Ledger) : Snapshot := .ofConnections ledger.connections ledger.total

end Ledger

end TrafficBoard
