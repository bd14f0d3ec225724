import TrafficBoard.Connection
import TrafficBoard.Traffic.Volume

/-!
# Snapshots

A snapshot shows the volumes of one moment three times: for each connection, and
grouped by process name and by remote address. The groups are made from the
connections, in the order in which their first members are listed.
-/

namespace TrafficBoard

/-- The volume of a connection, and the process and interface it belongs to. -/
structure ConnectionUse where
  process : String
  interface : String
  volume : Volume
  deriving DecidableEq, Repr, Inhabited

/-- The volume of a group of connections and their number. -/
structure GroupUse where
  volume : Volume
  connections : Int
  deriving DecidableEq, Repr, Inhabited

namespace GroupUse

/-- A group without members. -/
def empty : GroupUse := ⟨Volume.none, 0⟩

/-- The group with one more member. -/
def join (volume : Volume) (group : GroupUse) : GroupUse :=
  ⟨group.volume + volume, group.connections + 1⟩

end GroupUse

/-- The connections grouped by a key. -/
def groupUses {κ : Type} [DecidableEq κ] (key : Connection × ConnectionUse → κ)
    (connections : List (Connection × ConnectionUse)) : Keyed κ GroupUse :=
  connections.foldl
    (fun groups entry => groups.update (key entry) .empty (.join entry.2.volume)) .empty

/-- The volumes of one moment by connection, by process and by remote address,
and the overall total. -/
structure Snapshot where
  connections : Keyed Connection ConnectionUse
  processes : Keyed String GroupUse
  remotes : Keyed Address GroupUse
  total : Volume
  deriving Inhabited

namespace Snapshot

/-- The snapshot of the given connections and total. -/
def ofConnections (connections : Keyed Connection ConnectionUse) (total : Volume) : Snapshot where
  connections := connections
  processes := groupUses (·.2.process) connections.entries
  remotes := groupUses (·.1.address) connections.entries
  total := total

/-- Whether two snapshots hold the same entries and totals, in any order. -/
def same (snapshot other : Snapshot) : Bool :=
  snapshot.connections.sameEntries other.connections &&
    snapshot.processes.sameEntries other.processes &&
    snapshot.remotes.sameEntries other.remotes && snapshot.total = other.total

/-- The snapshot with bytes added to the upload of one connection. -/
def addUpload (snapshot : Snapshot) (connection : Connection) (bytes : Int) : Option Snapshot :=
  (snapshot.connections.find? connection).map fun use =>
    { snapshot with
      connections := snapshot.connections.insert connection
        { use with volume := use.volume + ⟨bytes, 0⟩ } }

end Snapshot

end TrafficBoard
