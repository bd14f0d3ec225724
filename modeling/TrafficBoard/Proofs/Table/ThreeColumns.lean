import TrafficBoard.Proofs.Table.Acceptance
import TrafficBoard.Proofs.Table.ShortRegion
import TrafficBoard.Proofs.Table.WholeCells

/-!
# Three columns fit

A utilization table shows all of its three columns on a terminal that is wide enough.  From there
on, each breakpoint declares less than its own width, and a cell for each column is left over.  A
breakpoint is selected above its width only, so the spacing never takes a cell of the last
column, however wide the terminal is.

Names and shortened cells are no longer than their columns are wide.  So nothing is cut, and each
text that is drawn stands whole in the panel.
-/

namespace TrafficBoard

namespace Table

open Grid Text

/-- Whether a table shows three columns at a width: its grid fits between the sides of a panel,
and in a panel of any height all names and the cells of all rows that it has lines for stand
whole. -/
structure ShowsThreeColumns (table : Table) (theme : Theme) (width : Int) : Prop where
  count_eq : (table.layout width).columns.count = .three
  grid_le : (table.layout width).columns.total + 2 * (table.layout width).spacing ≤ width - 2
  names_eq : table.visibleColumns width = table.columns
  drawn : ∀ height : Option Int, (∀ given ∈ height, 3 ≤ given) → ∃ top header rows,
    table.draw theme width.toNat width height =
      .ok (panel theme width top (bodyLines width height header rows)) ∧
    (panel theme width top (bodyLines width height header rows)).shownLines width.toNat =
      .ok (panel theme width top (bodyLines width height header rows)).lines ∧
    StandWhole (table.layout width) (innerAt width) table.columns header ∧
    List.Forall₂ (StandWhole (table.layout width) (innerAt width))
      (upTo (rowRoom height) (table.visibleRows width)) rows

variable {table : Table} {width : Int}

/-- Whether a breakpoint shows three columns, wide enough for names, and leaves a cell for each
of them at every width above it. -/
structure LeavesRoom (names : List String) (entry : Int × Columns) : Prop where
  count_eq : entry.2.count = .three
  positive : ArePositive entry.2.widths
  spare : entry.2.total + 3 ≤ entry.1
  names_fit : List.Forall₂ (fun name room => (name.toList.length : Int) ≤ room) names
    entry.2.widths

/-- Three columns are shown at every width that selects a breakpoint with room for them. -/
theorem LeavesRoom.showsThreeColumns {entry : Int × Columns}
    (room : LeavesRoom table.columns entry)
    (selected : (table.layout width).columns = entry.2) (below : entry.1 < width)
    (wide : 8 ≤ width) (title : IsNarrow table.title.toList)
    (narrow : table.AllTexts IsNarrowText) (theme : Theme) :
    table.ShowsThreeColumns theme width := by
  have three : (table.layout width).columns.count = .three := selected ▸ room.count_eq
  have positive : ArePositive (table.layout width).columns.widths := selected ▸ room.positive
  have spare : (table.layout width).columns.total + 3 ≤ entry.1 := selected ▸ room.spare
  have lengths : (table.layout width).columns.widths.length = 3 := by
    rw [Columns.length_widths, three]
    rfl
  have fits : (table.layout width).columns.total ≤ width - 2 := by omega
  have uneven : width ≠
      (table.layout width).columns.total + (table.layout width).columns.widths.length := by omega
  have names : table.visibleColumns width = table.columns := by
    have all : table.columns.length = 3 := by
      rw [room.names_fit.length_eq, ← selected, lengths]
    rw [visibleColumns, visible_eq_pick, three, ColumnCount.pick]
    exact List.take_of_length_le (Nat.le_of_eq all)
  have grid := Columns.total_add_spacing_le positive fits uneven
  rw [lengths] at grid
  refine ⟨three, grid, names, fun height high => ?_⟩
  obtain ⟨top, header, rows, drawn, shown, headerLaid, rowsLaid⟩ :=
    exists_panel_laysOut title narrow wide positive fits theme height high
  rw [names] at headerLaid
  exact ⟨top, header, rows, drawn, shown,
    headerLaid.standWhole positive fits uneven (selected ▸ room.names_fit),
    forall₂_standWhole positive fits uneven (fun _ => mem_of_mem_upTo) rowsLaid⟩

end Table

/-! ## The tables of the dashboard -/

namespace Utilization

open Table

theorem isNarrowText_of_isBasic {text : String} (basic : Text.IsBasic text.toList) :
    IsNarrowText text :=
  basic.isNarrow

/-- A table shows three columns above a breakpoint if those from there on have room for them. -/
theorem showsThreeColumns_table {title : String} {columns : String × String × String}
    {breakpoints : Keyed Int Columns} {base : 0 ∈ breakpoints.keys}
    {fits : ∀ entry ∈ breakpoints.entries, entry.2.count.needed ≤ 3} {rows : List Row}
    {least width : Int} (member : least ∈ breakpoints.keys)
    (room : ∀ entry ∈ breakpoints.entries, least ≤ entry.1 →
      LeavesRoom [columns.1, columns.2.1, columns.2.2] entry)
    (below : least < width) (wide : 8 ≤ width) (titleBasic : Text.IsBasic title.toList)
    (narrow : (table title columns breakpoints base fits rows).AllTexts IsNarrowText)
    (theme : Theme) :
    (table title columns breakpoints base fits rows).ShowsThreeColumns theme width := by
  let made := table title columns breakpoints base fits rows
  have inside := Layout.chosen_mem made.breakpoints_ne_nil width
  have listed : least ∈ made.breakpoints.map Prod.fst := by
    obtain ⟨entry, entryMember, key⟩ := List.mem_map.1 member
    exact List.mem_map.2 ⟨entry, Layout.mem_ascending.2 entryMember, key⟩
  obtain ⟨keyBelow, above⟩ :=
    (Layout.selects_chosen made.breakpoints_ne_nil width).lt listed below
  exact (room _ (Layout.mem_ascending.1 inside) above).showsThreeColumns rfl keyBelow wide
    titleBasic.isNarrow narrow theme

theorem leavesRoom_narrowBreakpoints : ∀ entry ∈ narrowBreakpoints.entries, 50 ≤ entry.1 →
    LeavesRoom ["Process", "Connections", "Rate Up / Down"] entry := by
  intro entry member above
  simp only [narrowBreakpoints, List.mem_cons, List.not_mem_nil, or_false] at member
  rcases member with rfl | rfl | rfl | rfl
  · exact absurd above (by decide)
  · exact ⟨rfl, by decide, by decide, by decide⟩
  · exact ⟨rfl, by decide, by decide, by decide⟩
  · exact ⟨rfl, by decide, by decide, by decide⟩

theorem leavesRoom_wideBreakpoints {first second : String} (firstFits : first.toList.length ≤ 30)
    (secondFits : second.toList.length ≤ 12) :
    ∀ entry ∈ wideBreakpoints.entries, 70 ≤ entry.1 →
      LeavesRoom [first, second, "Rate Up / Down"] entry := by
  have rates : ("Rate Up / Down".toList.length : Int) ≤ rateWidth := by decide
  have wider : ∀ {width : Int}, 30 ≤ width →
      List.Forall₂ (fun name room => (name.toList.length : Int) ≤ room)
        [first, second, "Rate Up / Down"] [width, 12, rateWidth] := fun least =>
    .cons (by omega) (.cons (by omega) (.cons rates .nil))
  intro entry member above
  simp only [wideBreakpoints, List.mem_cons, List.not_mem_nil, or_false] at member
  rcases member with rfl | rfl | rfl | rfl
  · exact absurd above (by decide)
  · exact ⟨rfl, by decide, by decide, wider (by decide)⟩
  · exact ⟨rfl, by decide, by decide, wider (by decide)⟩
  · exact ⟨rfl, by decide, by decide, wider (by decide)⟩

variable {snapshot : Snapshot} {hostnames : Hostnames} {result : Table} {width : Int}

theorem processes_showsThreeColumns (narrow : snapshot.AllTexts IsNarrowText hostnames)
    (made : processes snapshot = .ok result) (wide : 50 < width) (theme : Theme) :
    result.ShowsThreeColumns theme width := by
  have texts := allTexts_processes isNarrowText_of_isBasic narrow made
  obtain ⟨rows, -, rfl⟩ := processes_eq_ok_iff.1 made
  exact showsThreeColumns_table (by decide) leavesRoom_narrowBreakpoints wide (by omega)
    (by decide) texts theme

theorem connections_showsThreeColumns (narrow : snapshot.AllTexts IsNarrowText hostnames)
    (made : connections snapshot hostnames = .ok result) (wide : 70 < width) (theme : Theme) :
    result.ShowsThreeColumns theme width := by
  have texts := allTexts_connections isNarrowText_of_isBasic narrow made
  obtain ⟨rows, -, rfl⟩ := connections_eq_ok_iff.1 made
  exact showsThreeColumns_table (by decide)
    (leavesRoom_wideBreakpoints (by decide) (by decide)) wide (by omega) (by decide) texts theme

theorem remotes_showsThreeColumns (narrow : snapshot.AllTexts IsNarrowText hostnames)
    (made : remotes snapshot hostnames = .ok result) (wide : 70 < width) (theme : Theme) :
    result.ShowsThreeColumns theme width := by
  have texts := allTexts_remotes isNarrowText_of_isBasic narrow made
  obtain ⟨rows, -, rfl⟩ := remotes_eq_ok_iff.1 made
  exact showsThreeColumns_table (by decide)
    (leavesRoom_wideBreakpoints (by decide) (by decide)) wide (by omega) (by decide) texts theme

/-- However wide the terminal is, the three columns of a utilization table fit on it from its
first breakpoint with three columns on, and everything that is drawn of them stands whole. -/
theorem three_columns_always_fit (narrow : snapshot.AllTexts IsNarrowText hostnames)
    (theme : Theme) :
    (∀ result, processes snapshot = .ok result →
      ∀ width, 50 < width → result.ShowsThreeColumns theme width) ∧
    (∀ result, connections snapshot hostnames = .ok result →
      ∀ width, 70 < width → result.ShowsThreeColumns theme width) ∧
    (∀ result, remotes snapshot hostnames = .ok result →
      ∀ width, 70 < width → result.ShowsThreeColumns theme width) :=
  ⟨fun _ made _ wide => processes_showsThreeColumns narrow made wide theme,
    fun _ made _ wide => connections_showsThreeColumns narrow made wide theme,
    fun _ made _ wide => remotes_showsThreeColumns narrow made wide theme⟩

/-- A process with one connection. -/
def oneConnection : Snapshot where
  connections := ⟨[(⟨.four 93 184 216 34, 443, .tcp, 40222⟩,
    ⟨"firefox", "eth0", ⟨123450, 123450⟩⟩)], List.pairwise_singleton _ _⟩
  processes := ⟨[("firefox", ⟨⟨123450, 123450⟩, 1⟩)], List.pairwise_singleton _ _⟩
  remotes := ⟨[(.four 93 184 216 34, ⟨⟨123450, 123450⟩, 1⟩)], List.pairwise_singleton _ _⟩
  total := ⟨123450, 123450⟩

theorem three_columns_always_fit_one_connection :
    oneConnection.AllTexts IsNarrowText .empty ∧
      (∃ result, processes oneConnection = .ok result ∧
        result.ShowsThreeColumns .orange 51) ∧
      (∃ result, connections oneConnection .empty = .ok result ∧
        result.ShowsThreeColumns .orange 71) ∧
      ∃ result, remotes oneConnection .empty = .ok result ∧
        result.ShowsThreeColumns .orange 71 := by
  have narrow : oneConnection.AllTexts IsNarrowText .empty := by constructor <;> decide +kernel
  have rates : (⟨123450, 123450⟩ : Volume).HasRates :=
    Volume.hasRates_of_natAbs_le (by decide +kernel) (by decide +kernel)
  obtain ⟨processRows, processListed⟩ := exists_lists oneConnection.processes.entries (·.1)
    (fun entry => toString entry.2.connections) (·.2.volume)
    (List.forall_mem_singleton.2 rates)
  obtain ⟨connectionRows, connectionListed⟩ := exists_lists oneConnection.connections.entries
    (fun entry => entry.1.display .empty entry.2.interface) (·.2.process) (·.2.volume)
    (List.forall_mem_singleton.2 rates)
  obtain ⟨remoteRows, remoteListed⟩ := exists_lists oneConnection.remotes.entries
    (fun entry => entry.1.display .empty) (fun entry => toString entry.2.connections)
    (·.2.volume) (List.forall_mem_singleton.2 rates)
  have processesMade := processes_eq_ok_iff.2 ⟨processRows, processListed, rfl⟩
  have connectionsMade := connections_eq_ok_iff.2 ⟨connectionRows, connectionListed, rfl⟩
  have remotesMade := remotes_eq_ok_iff.2 ⟨remoteRows, remoteListed, rfl⟩
  obtain ⟨processesShow, connectionsShow, remotesShow⟩ :=
    three_columns_always_fit narrow .orange
  exact ⟨narrow, ⟨_, processesMade, processesShow _ processesMade 51 (by decide)⟩,
    ⟨_, connectionsMade, connectionsShow _ connectionsMade 71 (by decide)⟩,
    ⟨_, remotesMade, remotesShow _ remotesMade 71 (by decide)⟩⟩

end Utilization

end TrafficBoard
