import TrafficBoard.Proofs.Keyed.Reordered
import TrafficBoard.Proofs.Table.Edges
import TrafficBoard.Proofs.Table.Listing
import TrafficBoard.Proofs.Traffic.Ranking

/-!
# Short regions show the busiest entries

The tables of the dashboard list their entries from the busiest down, and a panel shows the
first rows that its height has lines for.  So the entries that a short region leaves out are
never busier than those that it shows.
-/

namespace TrafficBoard

/-! ## The texts of a snapshot -/

namespace Snapshot

/-- Whether no text of a snapshot and no hostname has a line feed. -/
structure IsFeedless (snapshot : Snapshot) (hostnames : Hostnames) : Prop where
  owners : ∀ entry ∈ snapshot.connections.entries, Table.IsFeedless entry.2.process
  interfaces : ∀ entry ∈ snapshot.connections.entries, Table.IsFeedless entry.2.interface
  addresses : ∀ entry ∈ snapshot.connections.entries, Table.IsFeedless entry.1.address.text
  processes : ∀ entry ∈ snapshot.processes.entries, Table.IsFeedless entry.1
  remotes : ∀ entry ∈ snapshot.remotes.entries, Table.IsFeedless entry.1.text
  hostnames : ∀ entry ∈ hostnames.entries, Table.IsFeedless entry.2

/-- Whether no process name of a snapshot and no hostname starts with a joiner where it is
displayed. -/
structure IsCuttable (snapshot : Snapshot) (hostnames : Hostnames) : Prop where
  owners : ∀ entry ∈ snapshot.connections.entries, Table.IsCuttable entry.2.process
  processes : ∀ entry ∈ snapshot.processes.entries, Table.IsCuttable entry.1
  hostnames : ∀ entry ∈ hostnames.entries, Table.IsCuttable entry.2

/-- Whether the texts that the tables of a snapshot show have a property, numbers and rates
apart. -/
structure AllTexts (property : String → Prop) (snapshot : Snapshot) (hostnames : Hostnames) :
    Prop where
  connections : ∀ entry ∈ snapshot.connections.entries,
    property (entry.1.display hostnames entry.2.interface)
  owners : ∀ entry ∈ snapshot.connections.entries, property entry.2.process
  processes : ∀ entry ∈ snapshot.processes.entries, property entry.1
  remotes : ∀ entry ∈ snapshot.remotes.entries, property (entry.1.display hostnames)

end Snapshot

theorem Address.display_property {property : String → Prop} {address : Address}
    {hostnames : Hostnames} (known : ∀ entry ∈ hostnames.entries, property entry.2)
    (own : property address.text) : property (address.display hostnames) := by
  unfold display
  cases found : hostnames.find? address with
  | none => exact own
  | some name => exact known _ (Keyed.find?_eq_some_iff.1 found)

namespace Table

theorem isFeedless_of_isBasic {text : String} (basic : Text.IsBasic text.toList) :
    IsFeedless text :=
  basic.notMem (by decide)

theorem isCuttable_of_isBasic {text : String} (basic : Text.IsBasic text.toList) :
    IsCuttable text :=
  Text.startsWithoutJoiner_of_isBasic basic

theorem isFeedless_append {text other : String} :
    IsFeedless (text ++ other) ↔ IsFeedless text ∧ IsFeedless other := by
  rw [IsFeedless, String.toList_append, List.mem_append, not_or]
  rfl

end Table

theorem Address.isCuttable_text (address : Address) : Table.IsCuttable address.text := by
  rw [Table.IsCuttable, text, String.toList_ofList]
  exact address.startsWithoutJoiner_characters

namespace Connection

theorem isFeedless_display {connection : Connection} {hostnames : Hostnames} {interface : String}
    (address : Table.IsFeedless (connection.address.display hostnames))
    (shown : Table.IsFeedless interface) :
    Table.IsFeedless (connection.display hostnames interface) := by
  have localPort := Table.isFeedless_of_isBasic (Text.isBasic_toString_int connection.localPort)
  have port := Table.isFeedless_of_isBasic (Text.isBasic_toString_int connection.port)
  have protocol : Table.IsFeedless connection.protocol.text := by
    cases connection.protocol <;> exact Table.isFeedless_of_isBasic (by decide)
  simp only [display, Table.isFeedless_append, address, shown, localPort, port, protocol, and_true]
  decide

/-- A sign stands in front of the interface. -/
theorem isCuttable_display (connection : Connection) (hostnames : Hostnames)
    (interface : String) : Table.IsCuttable (connection.display hostnames interface) := by
  simp only [Table.IsCuttable, display, String.toList_append, List.append_assoc]
  exact Text.startsWithoutJoiner_cons (by decide) _

end Connection

namespace Utilization

variable {α : Type} {first second : α → String} {volume : α → Volume}
variable {makeRow : α → Except NumberError Row} {entries : List α} {rows : List Row}

/-- What holds of the texts of basic Latin and of the two texts of each entry holds of all
texts of a table. -/
theorem allTexts_table {property : String → Prop}
    (basic : ∀ {text : String}, Text.IsBasic text.toList → property text)
    (each : ∀ entry ∈ entries, property (first entry) ∧ property (second entry))
    (listed : Lists first second volume (busiestFirst volume entries) rows)
    {title : String} {columns : String × String × String} {breakpoints : Keyed Int Columns}
    {base : 0 ∈ breakpoints.keys}
    {fits : ∀ entry ∈ breakpoints.entries, entry.2.count.needed ≤ 3}
    (names : Text.IsBasic (columns.1 ++ columns.2.1 ++ columns.2.2).toList) :
    (table title columns breakpoints base fits rows).AllTexts property := by
  simp only [String.toList_append, Text.isBasic_append] at names
  refine ⟨?_, List.forall_mem_map.2 ?_⟩
  · exact List.forall_mem_cons.2 ⟨basic names.1.1, List.forall_mem_cons.2
      ⟨basic names.1.2, List.forall_mem_singleton.2 (basic names.2)⟩⟩
  · intro row member
    obtain ⟨entry, entryMember, sameFirst, sameSecond, rates⟩ :=
      Attempt.exists_of_mem_right listed member
    obtain ⟨firstHolds, secondHolds⟩ := each entry (List.mem_mergeSort.1 entryMember)
    rw [← sameFirst] at firstHolds
    rw [← sameSecond] at secondHolds
    exact List.forall_mem_cons.2 ⟨firstHolds, List.forall_mem_cons.2
      ⟨secondHolds, List.forall_mem_singleton.2 (basic (Volume.isBasic_rateText rates))⟩⟩

section Tables

variable {property : String → Prop} {snapshot : Snapshot} {hostnames : Hostnames}
variable {result : Table}

theorem allTexts_processes (basic : ∀ {text : String}, Text.IsBasic text.toList → property text)
    (texts : snapshot.AllTexts property hostnames) (made : processes snapshot = .ok result) :
    result.AllTexts property := by
  obtain ⟨rows, listed, rfl⟩ := processes_eq_ok_iff.1 made
  exact allTexts_table basic (fun entry member =>
    ⟨texts.processes entry member, basic (Text.isBasic_toString_int _)⟩) listed (by decide)

theorem allTexts_connections
    (basic : ∀ {text : String}, Text.IsBasic text.toList → property text)
    (texts : snapshot.AllTexts property hostnames)
    (made : connections snapshot hostnames = .ok result) : result.AllTexts property := by
  obtain ⟨rows, listed, rfl⟩ := connections_eq_ok_iff.1 made
  exact allTexts_table basic (fun entry member =>
    ⟨texts.connections entry member, texts.owners entry member⟩) listed (by decide)

theorem allTexts_remotes (basic : ∀ {text : String}, Text.IsBasic text.toList → property text)
    (texts : snapshot.AllTexts property hostnames)
    (made : remotes snapshot hostnames = .ok result) : result.AllTexts property := by
  obtain ⟨rows, listed, rfl⟩ := remotes_eq_ok_iff.1 made
  exact allTexts_table basic (fun entry member =>
    ⟨texts.remotes entry member, basic (Text.isBasic_toString_int _)⟩) listed (by decide)

end Tables

end Utilization

/-! ## The entries that a panel shows -/

/-- Every entry of a ranked list is at most as busy as those in front of it. -/
theorem peak_le_of_append_eq_busiestFirst {α : Type} {volume : α → Volume} {entries : List α}
    {drawn hidden : List α} (ranked : drawn ++ hidden = busiestFirst volume entries) :
    ∀ entry ∈ drawn, ∀ other ∈ hidden, (volume other).peak ≤ (volume entry).peak := by
  have falling := falling_busiestFirst volume entries
  rw [← ranked] at falling
  exact (List.pairwise_append.1 falling).2.2

namespace Table

/-- What can be told apart in a panel that lists entries: those that it draws and those that
it hides, the upper edge, the line of the header, and the lines of the rows. -/
structure Listing (α : Type) where
  drawn : List α
  hidden : List α
  top : Line
  header : Line
  rows : List Line

/-- The number of entries of which a panel of a height draws the rows. -/
def drawnCount (height : Option Int) (entries : Nat) : Nat :=
  match height with
  | some given => min entries (given - 3).toNat
  | none => entries

/-- Whether a drawing is the panel of a listing of entries.  The listing draws the first of the
ranked entries, each in the one line that its row takes, and hides none that is busier. -/
structure Listing.Describes {α : Type} (listing : Listing α) (volume : α → Volume)
    (entries : List α) (makeRow : α → Except NumberError Utilization.Row) (table : Table)
    (theme : Theme) (width : Int) (height : Option Int) (drawing : Drawing) : Prop where
  ranked : listing.drawn ++ listing.hidden = busiestFirst volume entries
  length_drawn : listing.drawn.length = drawnCount height entries.length
  peak_le : ∀ entry ∈ listing.drawn, ∀ other ∈ listing.hidden,
    (volume other).peak ≤ (volume entry).peak
  header_line : table.Takes width (table.headerRow theme width) listing.header
  row_lines : List.Forall₂
    (fun entry line => ∃ row, makeRow entry = .ok row ∧
      table.Takes width (table.textRow width row.cells) line)
    listing.drawn listing.rows
  drawing_eq : drawing =
    panel theme width listing.top (bodyLines width height listing.header listing.rows)

/-- Whether every drawing of a table for a region is the panel of a listing of entries. -/
def ShowsBusiest {α : Type} (volume : α → Volume) (entries : List α)
    (makeRow : α → Except NumberError Utilization.Row) (table : Table) (theme : Theme)
    (width : Int) (height : Option Int) : Prop :=
  ∀ drawing, table.draw theme width.toNat width height = .ok drawing →
    ∃ listing : Listing α,
      listing.Describes volume entries makeRow table theme width height drawing

/-- Whether a table has a drawing for a region, which a terminal of its width shows as it
is. -/
def IsShown (table : Table) (theme : Theme) (width : Int) (height : Option Int) : Prop :=
  ∃ drawing, table.draw theme width.toNat width height = .ok drawing ∧
    drawing.shownLines width.toNat = .ok drawing.lines

/-- A table of texts of one line that start with no joiner is shown as it is. -/
theorem isShown_of_isCuttable {table : Table} (title : Text.IsNarrow table.title.toList)
    (feedless : table.AllTexts IsFeedless) (cuttable : table.AllTexts IsCuttable) (theme : Theme)
    {width : Int} (wide : 8 ≤ width) (height : Option Int) : table.IsShown theme width height := by
  have all : table.AllTexts fun text => ∀ c ∈ text.toList, True :=
    ⟨fun _ _ _ _ => trivial, fun _ _ _ _ _ _ => trivial⟩
  have texts : table.HasCuttableTexts fun _ => True :=
    hasCuttableTexts_of_isCuttable feedless cuttable all
  obtain ⟨drawing, done, fits⟩ :=
    exists_draw title texts Text.allowsNarrow_all theme width height
  exact ⟨drawing, done, Drawing.shownLines_eq (by omega) fun line member => (fits line member).2⟩

theorem length_upTo_rowRoom {α : Type} (height : Option Int) (entries : List α) :
    (Grid.upTo (rowRoom height) entries).length = drawnCount height entries.length := by
  cases height with
  | none => rfl
  | some given => exact List.length_take.trans (Nat.min_comm _ _)

theorem exists_upTo_append {α : Type} (limit : Option Nat) (entries : List α) :
    ∃ behind, Grid.upTo limit entries ++ behind = entries := by
  cases limit with
  | none => exact ⟨[], List.append_nil entries⟩
  | some count => exact ⟨entries.drop count, List.take_append_drop count entries⟩

theorem forall₂_upTo {α β : Type} {partners : α → β → Prop} {entries : List α}
    {others : List β} (paired : List.Forall₂ partners entries others) (limit : Option Nat) :
    List.Forall₂ partners (Grid.upTo limit entries) (Grid.upTo limit others) := by
  cases limit with
  | none => exact paired
  | some count => exact List.forall₂_take count paired

/-- A table of the rows of ranked entries shows the busiest ones. -/
theorem showsBusiest_of_rows {α : Type} {volume : α → Volume} {entries : List α}
    {makeRow : α → Except NumberError Utilization.Row} {rows : List Utilization.Row}
    {table : Table} (feedless : table.AllTexts IsFeedless)
    (made : List.Forall₂ (fun entry row => makeRow entry = .ok row)
      (busiestFirst volume entries) rows)
    (same : table.rows = rows.map Utilization.Row.cells) (theme : Theme) {width : Int}
    {height : Option Int} (wide : 8 ≤ width) (high : ∀ given ∈ height, 3 ≤ given) :
    table.ShowsBusiest volume entries makeRow theme width height := by
  intro drawing done
  obtain ⟨top, header, shown, -, headerTaken, taken, drawn⟩ :=
    (draw_eq_ok_iff feedless wide high).1 done
  rw [same, upTo_map, List.forall₂_map_left_iff] at taken
  obtain ⟨hidden, ranked⟩ := exists_upTo_append (rowRoom height) (busiestFirst volume entries)
  refine ⟨⟨Grid.upTo (rowRoom height) (busiestFirst volume entries), hidden, top, header, shown⟩,
    ranked, ?_, peak_le_of_append_eq_busiestFirst ranked, headerTaken, ?_, drawn⟩
  · rw [length_upTo_rowRoom, busiestFirst, List.length_mergeSort]
  · exact Attempt.forall₂_trans (forall₂_upTo made (rowRoom height)) taken

end Table

namespace Utilization

variable {width : Int} {height : Option Int}

/-- A table that lists entries shows the busiest ones if no text of an entry has a line feed,
and can be drawn if none starts with a joiner. -/
theorem showsBusiest_of_lists {α : Type} {first second : α → String} {volume : α → Volume}
    {makeRow : α → Except NumberError Row} {entries : List α} {rows : List Row}
    (listed : Lists first second volume (busiestFirst volume entries) rows)
    (shape : ∀ entry, makeRow entry = do
      let rates ← (volume entry).rateText
      return ⟨first entry, second entry, rates⟩)
    {title : String} {columns : String × String × String} {breakpoints : Keyed Int Columns}
    {base : 0 ∈ breakpoints.keys}
    {fits : ∀ entry ∈ breakpoints.entries, entry.2.count.needed ≤ 3}
    (titleBasic : Text.IsBasic title.toList)
    (names : Text.IsBasic (columns.1 ++ columns.2.1 ++ columns.2.2).toList)
    (feedless : ∀ entry ∈ entries,
      Table.IsFeedless (first entry) ∧ Table.IsFeedless (second entry))
    {drawable : Prop}
    (cuttable : drawable → ∀ entry ∈ entries,
      Table.IsCuttable (first entry) ∧ Table.IsCuttable (second entry))
    (theme : Theme) (wide : 8 ≤ width) (high : ∀ given ∈ height, 3 ≤ given) :
    (table title columns breakpoints base fits rows).ShowsBusiest volume entries makeRow theme
        width height ∧
      (drawable → (table title columns breakpoints base fits rows).IsShown theme width height) := by
  have made := Attempt.mapM_eq_ok_iff.1 ((mapM_row_eq_ok_iff shape).2 listed)
  have texts : (table title columns breakpoints base fits rows).AllTexts Table.IsFeedless :=
    allTexts_table Table.isFeedless_of_isBasic feedless listed names
  refine ⟨Table.showsBusiest_of_rows texts made rfl theme wide high, ?_⟩
  intro drawn
  exact Table.isShown_of_isCuttable titleBasic.isNarrow texts
    (allTexts_table Table.isCuttable_of_isBasic (cuttable drawn) listed names) theme wide height

variable {snapshot : Snapshot} {hostnames : Hostnames} {result : Table}

theorem processes_showsBusiest (feedless : snapshot.IsFeedless hostnames) (theme : Theme)
    (wide : 8 ≤ width) (high : ∀ given ∈ height, 3 ≤ given)
    (made : processes snapshot = .ok result) :
    result.ShowsBusiest (·.2.volume) snapshot.processes.entries processRow theme width height ∧
      (snapshot.IsCuttable hostnames → result.IsShown theme width height) := by
  obtain ⟨rows, listed, rfl⟩ := processes_eq_ok_iff.1 made
  refine showsBusiest_of_lists listed (fun _ => rfl) (by decide) (by decide) ?_ ?_ theme wide high
  · intro entry member
    exact ⟨feedless.processes entry member,
      Table.isFeedless_of_isBasic (Text.isBasic_toString_int _)⟩
  · intro cuttable entry member
    exact ⟨cuttable.processes entry member,
      Table.isCuttable_of_isBasic (Text.isBasic_toString_int _)⟩

theorem connections_showsBusiest (feedless : snapshot.IsFeedless hostnames) (theme : Theme)
    (wide : 8 ≤ width) (high : ∀ given ∈ height, 3 ≤ given)
    (made : connections snapshot hostnames = .ok result) :
    result.ShowsBusiest (·.2.volume) snapshot.connections.entries (connectionRow hostnames) theme
        width height ∧
      (snapshot.IsCuttable hostnames → result.IsShown theme width height) := by
  obtain ⟨rows, listed, rfl⟩ := connections_eq_ok_iff.1 made
  refine showsBusiest_of_lists listed (fun _ => rfl) (by decide) (by decide) ?_ ?_ theme wide high
  · intro entry member
    have address := Address.display_property feedless.hostnames (feedless.addresses entry member)
    exact ⟨Connection.isFeedless_display address (feedless.interfaces entry member),
      feedless.owners entry member⟩
  · intro cuttable entry member
    exact ⟨entry.1.isCuttable_display hostnames entry.2.interface, cuttable.owners entry member⟩

theorem remotes_showsBusiest (feedless : snapshot.IsFeedless hostnames) (theme : Theme)
    (wide : 8 ≤ width) (high : ∀ given ∈ height, 3 ≤ given)
    (made : remotes snapshot hostnames = .ok result) :
    result.ShowsBusiest (·.2.volume) snapshot.remotes.entries (remoteRow hostnames) theme width
        height ∧
      (snapshot.IsCuttable hostnames → result.IsShown theme width height) := by
  obtain ⟨rows, listed, rfl⟩ := remotes_eq_ok_iff.1 made
  refine showsBusiest_of_lists listed (fun _ => rfl) (by decide) (by decide) ?_ ?_ theme wide high
  · intro entry member
    exact ⟨Address.display_property feedless.hostnames (feedless.remotes entry member),
      Table.isFeedless_of_isBasic (Text.isBasic_toString_int _)⟩
  · intro cuttable entry member
    exact ⟨Address.display_property cuttable.hostnames entry.1.isCuttable_text,
      Table.isCuttable_of_isBasic (Text.isBasic_toString_int _)⟩

/-- However short its region is, each of the three tables shows its busiest entries, and none
that it hides is busier than one that it shows.  It can be drawn if no name starts with a
joiner. -/
theorem short_regions_show_busiest (feedless : snapshot.IsFeedless hostnames) (theme : Theme)
    (wide : 8 ≤ width) (high : ∀ given ∈ height, 3 ≤ given) :
    (∀ result, processes snapshot = .ok result →
      result.ShowsBusiest (·.2.volume) snapshot.processes.entries processRow theme width height ∧
        (snapshot.IsCuttable hostnames → result.IsShown theme width height)) ∧
    (∀ result, connections snapshot hostnames = .ok result →
      result.ShowsBusiest (·.2.volume) snapshot.connections.entries (connectionRow hostnames)
          theme width height ∧
        (snapshot.IsCuttable hostnames → result.IsShown theme width height)) ∧
    (∀ result, remotes snapshot hostnames = .ok result →
      result.ShowsBusiest (·.2.volume) snapshot.remotes.entries (remoteRow hostnames) theme width
          height ∧
        (snapshot.IsCuttable hostnames → result.IsShown theme width height)) :=
  ⟨fun _ => processes_showsBusiest feedless theme wide high,
    fun _ => connections_showsBusiest feedless theme wide high,
    fun _ => remotes_showsBusiest feedless theme wide high⟩

/-- Two processes, the second one busier. -/
def twoProcesses : Snapshot where
  connections := .empty
  processes := ⟨[("idle", ⟨⟨1, 2⟩, 1⟩), ("busy", ⟨⟨3, 4⟩, 1⟩)], by decide⟩
  remotes := .empty
  total := ⟨4, 6⟩

theorem short_regions_show_busiest_two_processes :
    twoProcesses.IsFeedless .empty ∧ twoProcesses.IsCuttable .empty ∧
      ∃ result, processes twoProcesses = .ok result ∧
        result.ShowsBusiest (·.2.volume) twoProcesses.processes.entries processRow .orange 40
          (some 4) ∧
        result.IsShown .orange 40 (some 4) := by
  have feedless : twoProcesses.IsFeedless .empty := by constructor <;> decide
  have cuttable : twoProcesses.IsCuttable .empty := by constructor <;> decide
  have wide : (8 : Int) ≤ 40 := by decide
  have high : ∀ given ∈ some (4 : Int), 3 ≤ given := by decide
  have rates : ∀ entry ∈ twoProcesses.processes.entries, entry.2.volume.HasRates := by
    refine List.forall_mem_cons.2 ⟨?_, List.forall_mem_singleton.2 ?_⟩
    · exact Volume.hasRates_of_natAbs_le (by decide +kernel) (by decide +kernel)
    · exact Volume.hasRates_of_natAbs_le (by decide +kernel) (by decide +kernel)
  obtain ⟨rows, listed⟩ := exists_lists twoProcesses.processes.entries (·.1)
    (fun entry => toString entry.2.connections) (·.2.volume) rates
  have made := processes_eq_ok_iff.2 ⟨rows, listed, rfl⟩
  obtain ⟨shows, drawn⟩ :=
    (short_regions_show_busiest feedless .orange wide high).1 _ made
  exact ⟨feedless, cuttable, _, made, shows, drawn cuttable⟩

/-- A process whose name starts with joiners. -/
def joinedProcess : Snapshot where
  connections := .empty
  processes := ⟨[("\u200d\u200d日本", ⟨⟨1, 1⟩, 1⟩)], by decide⟩
  remotes := .empty
  total := ⟨1, 1⟩

theorem lists_joinedProcess :
    Lists (·.1) (fun entry => toString entry.2.connections) (·.2.volume)
      (busiestFirst (·.2.volume) joinedProcess.processes.entries)
      [⟨"\u200d\u200d日本", "1", "1Bps / 1Bps"⟩] := by
  have rates : (⟨1, 1⟩ : Volume).rateText = .ok "1Bps / 1Bps" := by decide +kernel
  rw [busiestFirst, joinedProcess, List.mergeSort_singleton]
  exact .cons ⟨rfl, by decide, rates⟩ .nil

theorem layout_narrowBreakpoints (title : String) (columns : String × String × String)
    (base : 0 ∈ narrowBreakpoints.keys)
    (fits : ∀ entry ∈ narrowBreakpoints.entries, entry.2.count.needed ≤ 3) (rows : List Row) :
    (table title columns narrowBreakpoints base fits rows).layout 8 =
      ⟨twoColumns 12 rateWidth, 0⟩ :=
  layout_table (by decide) (by decide : Layout.lastBelow 8 narrowBreakpoints.entries =
    some (0, twoColumns 12 rateWidth)) title columns base fits rows

theorem body_joinedProcess {shown : Table}
    (layout : shown.layout 8 = ⟨twoColumns 12 rateWidth, 0⟩)
    (names : shown.columns = ["Process", "Connections", "Rate Up / Down"])
    (cells : shown.rows = [["\u200d\u200d日本", "1", "1Bps / 1Bps"]]) :
    Drawing.body shown .orange 6 8 (some 4) = .error .tooFewCells := by
  have columns : shown.visibleColumns 8 = ["Process", "Rate Up / Down"] := by
    rw [Table.visibleColumns, Table.visible_eq_filterMap, layout, names]
    decide
  have rows : shown.visibleRows 8 = [["\u200d\u200d日本", "1Bps / 1Bps"]] := by
    rw [Table.visibleRows_eq_map, cells, List.map_singleton, Table.shownTexts, layout]
    decide
  have grid : Grid.lines 6 0 [12, rateWidth] (.bold Theme.orange.header)
      ["Process", "Rate Up / Down"] [["\u200d\u200d日本", "1Bps / 1Bps"]] (some 2) =
      .error .tooFewCells := by decide +kernel
  rw [Drawing.body, columns, rows, layout]
  exact congrArg (· >>= _) grid

theorem draw_joinedProcess {shown : Table}
    (layout : shown.layout 8 = ⟨twoColumns 12 rateWidth, 0⟩)
    (names : shown.columns = ["Process", "Connections", "Rate Up / Down"])
    (cells : shown.rows = [["\u200d\u200d日本", "1", "1Bps / 1Bps"]]) :
    shown.draw .orange 8 8 (some 4) = .error .tooFewCells := by
  rw [Table.draw, if_neg (by decide), Drawing.panelLines]
  change (Except.map _ (Drawing.body _ .orange (Drawing.innerWidth _ 8 8) 8 _ >>= _)) = _
  rw [Table.innerWidth_eq, body_joinedProcess layout names cells]
  rfl

/-- A name that starts with joiners can leave nothing to cut in a narrow column. -/
theorem joined_name_is_not_drawn :
    joinedProcess.IsFeedless .empty ∧
      ∃ result, processes joinedProcess = .ok result ∧
        result.draw .orange 8 8 (some 4) = .error .tooFewCells := by
  have feedless : joinedProcess.IsFeedless .empty := by constructor <;> decide
  exact ⟨feedless, _, processes_eq_ok_iff.2 ⟨_, lists_joinedProcess, rfl⟩,
    draw_joinedProcess (layout_narrowBreakpoints _ _ _ _ _) rfl rfl⟩

end Utilization

end TrafficBoard
