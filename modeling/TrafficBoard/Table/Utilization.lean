import TrafficBoard.Table.Basic
import TrafficBoard.Traffic.Snapshot

/-!
# Utilization tables

The three tables of the dashboard show a snapshot by connection, by process and
by remote address. Each lists its entries from the busiest down, with the rates
of both directions in the last column.

An entry has a row unless one of its counts is too large for a rate.
-/

namespace TrafficBoard.Utilization

/-- A breakpoint that shows all three columns. -/
def threeColumns (first second third : Int) : Columns := ⟨.three, [first, second, third], rfl⟩

/-- A breakpoint that leaves out the middle column. -/
def twoColumns (first third : Int) : Columns := ⟨.two, [first, third], rfl⟩

/-- The width of the column that shows rates. -/
def rateWidth : Int := 23

/-- The layouts of the tables whose first column shows addresses. -/
def wideBreakpoints : Keyed Int Columns where
  entries := [
    (0, twoColumns 20 rateWidth),
    (70, threeColumns 30 12 rateWidth),
    (100, threeColumns 60 12 rateWidth),
    (140, threeColumns 100 12 rateWidth)]
  distinct := by decide

/-- The layouts of the table whose first column shows process names. -/
def narrowBreakpoints : Keyed Int Columns where
  entries := [
    (0, twoColumns 12 rateWidth),
    (50, threeColumns 12 12 rateWidth),
    (100, threeColumns 40 12 rateWidth),
    (140, threeColumns 40 12 rateWidth)]
  distinct := by decide

theorem needed_wideBreakpoints {entry : Int × Columns} (member : entry ∈ wideBreakpoints.entries) :
    entry.2.count.needed ≤ 3 := by
  simp only [wideBreakpoints, List.mem_cons, List.not_mem_nil, or_false] at member
  rcases member with rfl | rfl | rfl | rfl <;> decide

theorem needed_narrowBreakpoints {entry : Int × Columns}
    (member : entry ∈ narrowBreakpoints.entries) : entry.2.count.needed ≤ 3 := by
  simp only [narrowBreakpoints, List.mem_cons, List.not_mem_nil, or_false] at member
  rcases member with rfl | rfl | rfl | rfl <;> decide

/-- The cells of a row. -/
structure Row where
  first : String
  second : String
  rates : String
  deriving DecidableEq, Repr

/-- The cells from left to right. -/
def Row.cells (row : Row) : List String := [row.first, row.second, row.rates]

@[simp] theorem Row.length_cells (row : Row) : row.cells.length = 3 := rfl

theorem length_of_mem_cells {rows : List Row} {cells : List String}
    (member : cells ∈ rows.map Row.cells) : cells.length = 3 := by
  obtain ⟨row, _, equal⟩ := List.mem_map.1 member
  exact equal ▸ row.length_cells

theorem mem_ascending_keys {breakpoints : Keyed Int Columns} (base : 0 ∈ breakpoints.keys) :
    0 ∈ (Layout.ascending breakpoints.entries).map (·.1) := by
  obtain ⟨entry, member, key⟩ := List.mem_map.1 base
  exact List.mem_map.2 ⟨entry, Layout.mem_ascending.2 member, key⟩

/-- A table of three columns. -/
def table (title : String) (columns : String × String × String) (breakpoints : Keyed Int Columns)
    (base : 0 ∈ breakpoints.keys)
    (fits : ∀ entry ∈ breakpoints.entries, entry.2.count.needed ≤ 3) (rows : List Row) : Table where
  title := title
  columns := [columns.1, columns.2.1, columns.2.2]
  rows := rows.map Row.cells
  breakpoints := Layout.ascending breakpoints.entries
  base := mem_ascending_keys base
  layouts_fit := fun entry member => fits entry (Layout.mem_ascending.1 member)
  rows_fit := fun _ member => length_of_mem_cells member

/-- The row of a connection: its text, its process and its rates. -/
def connectionRow (hostnames : Hostnames) (entry : Connection × ConnectionUse) :
    Except NumberError Row := do
  let rates ← entry.2.volume.rateText
  return ⟨entry.1.display hostnames entry.2.interface, entry.2.process, rates⟩

/-- The row of a process: its name, the number of its connections and its rates. -/
def processRow (entry : String × GroupUse) : Except NumberError Row := do
  let rates ← entry.2.volume.rateText
  return ⟨entry.1, toString entry.2.connections, rates⟩

/-- The row of a remote address: its hostname or text, the number of its connections
and its rates. -/
def remoteRow (hostnames : Hostnames) (entry : Address × GroupUse) : Except NumberError Row := do
  let rates ← entry.2.volume.rateText
  return ⟨entry.1.display hostnames, toString entry.2.connections, rates⟩

/-- The table of the connections of a snapshot. -/
def connections (snapshot : Snapshot) (hostnames : Hostnames) : Except NumberError Table := do
  let ranked := busiestFirst (·.2.volume) snapshot.connections.entries
  let rows ← ranked.mapM (connectionRow hostnames)
  return table "Utilization by connection" ("Connection", "Process", "Rate Up / Down")
    wideBreakpoints (by decide) (fun _ => needed_wideBreakpoints) rows

/-- The table of the processes of a snapshot. -/
def processes (snapshot : Snapshot) : Except NumberError Table := do
  let ranked := busiestFirst (·.2.volume) snapshot.processes.entries
  let rows ← ranked.mapM processRow
  return table "Utilization by process name" ("Process", "Connections", "Rate Up / Down")
    narrowBreakpoints (by decide) (fun _ => needed_narrowBreakpoints) rows

/-- The table of the remote addresses of a snapshot. -/
def remotes (snapshot : Snapshot) (hostnames : Hostnames) : Except NumberError Table := do
  let ranked := busiestFirst (·.2.volume) snapshot.remotes.entries
  let rows ← ranked.mapM (remoteRow hostnames)
  return table "Utilization by remote address" ("Remote Address", "Connections", "Rate Up / Down")
    wideBreakpoints (by decide) (fun _ => needed_wideBreakpoints) rows

end TrafficBoard.Utilization
