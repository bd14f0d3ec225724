import TrafficBoard.Proofs.RateLengths
import TrafficBoard.Proofs.Table.Listing
import TrafficBoard.Proofs.Table.Panels
import TrafficBoard.Proofs.Text.Shortening

/-!
# The cells that show rates

The last column of a utilization table shows rates, and it is wide enough for two rates with
three digits before the point.  Only a count that is rounded up to a thousand of its unit has a
fourth digit.  If the other rate has three or more, the two do not fit, and the cell is shortened.
-/

namespace TrafficBoard

/-- Whether a volume has counts that three digits of the largest unit can show. -/
structure Volume.IsShowable (volume : Volume) : Prop where
  up_nonneg : 0 ≤ volume.up
  up_le : volume.up ≤ 999000000000
  down_nonneg : 0 ≤ volume.down
  down_le : volume.down ≤ 999000000000

/-- Whether one rate of a volume is rounded up to a thousand of its unit, while the other one is
at least a hundred of its own. -/
def Volume.IsOverlong (volume : Volume) : Prop :=
  Rate.ReachesThousand volume.up ∧ Rate.ReachesHundred volume.down ∨
    Rate.ReachesHundred volume.up ∧ Rate.ReachesThousand volume.down
  deriving Decidable

theorem Volume.IsShowable.exists_rateText {volume : Volume} (showable : volume.IsShowable) :
    ∃ text, volume.rateText = .ok text ∧ text.length ≤ 25 ∧
      (text.length ≤ 23 ↔ ¬volume.IsOverlong) :=
  Rate.exists_pairText showable.up_nonneg showable.up_le showable.down_nonneg showable.down_le

namespace Utilization

/-- Whether breakpoints show rates in the last of three columns, with room for 23 characters. -/
def EndsInRates (breakpoints : Keyed Int Columns) : Prop :=
  ∀ entry ∈ breakpoints.entries,
    entry.2.count.needed ≤ 3 ∧ entry.2.widths.getLast? = some rateWidth

theorem endsInRates_narrowBreakpoints : EndsInRates narrowBreakpoints := by
  unfold EndsInRates
  decide

theorem endsInRates_wideBreakpoints : EndsInRates wideBreakpoints := by
  unfold EndsInRates
  decide

theorem shorten_rates_iff {rates : String} :
    shorten rates rateWidth = rates ↔ rates.length ≤ 23 := by
  rw [Text.shorten_eq_self_iff]
  constructor
  · rintro (fits | rfl)
    · exact Int.ofNat_le.1 fits
    · exact Nat.zero_le 23
  · intro fits
    exact .inl (Int.ofNat_le.2 fits)

/-- The last one of the texts that a layout of two or three columns shows of a row. -/
theorem getLast?_shown {columns : Columns} {room : Int} (few : columns.count.needed ≤ 3)
    (last : columns.widths.getLast? = some room) (row : Row) :
    (List.zipWith shorten (columns.count.indices.filterMap (row.cells[·]?))
      columns.widths).getLast? = some (shorten row.rates room) := by
  rcases columns with ⟨count, widths, lengths⟩
  cases count with
  | two =>
      obtain ⟨first, second, rfl⟩ := List.length_eq_two.1 lengths
      cases last
      rfl
  | three =>
      obtain ⟨first, second, third, rfl⟩ := List.length_eq_three.1 lengths
      cases last
      rfl
  | four => exact absurd few (show ¬4 ≤ 3 by decide)

variable {breakpoints : Keyed Int Columns}

theorem getLast?_shownTexts_table (ends : EndsInRates breakpoints) (title : String)
    (columns : String × String × String) (base : 0 ∈ breakpoints.keys)
    (fits : ∀ entry ∈ breakpoints.entries, entry.2.count.needed ≤ 3) (rows : List Row)
    (width : Int) (row : Row) :
    ((table title columns breakpoints base fits rows).shownTexts width row.cells).getLast? =
      some (shorten row.rates rateWidth) := by
  let made := table title columns breakpoints base fits rows
  have inside := Layout.chosen_mem made.breakpoints_ne_nil width
  obtain ⟨few, last⟩ := ends _ (Layout.mem_ascending.1 inside)
  exact getLast?_shown few last row

/-- Whether a table can be made of entries with showable volumes, and shows the rates of each
such entry as they are, at every width, unless they are overlong. -/
structure ShowsRates {α : Type} (volume : α → Volume) (entries : List α)
    (make : Except NumberError Table) : Prop where
  made : (∀ entry ∈ entries, (volume entry).IsShowable) → ∃ result, make = .ok result
  cells : ∀ result, make = .ok result → ∀ width : Int,
    List.Forall₂
      (fun entry texts => (volume entry).IsShowable → ∃ text, (volume entry).rateText = .ok text ∧
        (texts.getLast? = some text ↔ ¬(volume entry).IsOverlong))
      (busiestFirst volume entries) (result.visibleRows width)

theorem showsRates_of_lists {α : Type} {first second : α → String} {volume : α → Volume}
    {entries : List α} {make : Except NumberError Table} (ends : EndsInRates breakpoints)
    {title : String} {columns : String × String × String} {base : 0 ∈ breakpoints.keys}
    {fits : ∀ entry ∈ breakpoints.entries, entry.2.count.needed ≤ 3}
    (lists : ∀ result, make = .ok result ↔
      ∃ rows, Lists first second volume (busiestFirst volume entries) rows ∧
        result = table title columns breakpoints base fits rows) :
    ShowsRates volume entries make where
  made showable := by
    obtain ⟨rows, listed⟩ := exists_lists entries first second volume fun entry member => by
      obtain ⟨text, done, -⟩ := (showable entry member).exists_rateText
      exact ⟨text, done⟩
    exact ⟨_, (lists _).2 ⟨rows, listed, rfl⟩⟩
  cells result made width := by
    obtain ⟨rows, listed, rfl⟩ := (lists result).1 made
    have visible : (table title columns breakpoints base fits rows).visibleRows width =
        rows.map fun row =>
          (table title columns breakpoints base fits rows).shownTexts width row.cells := by
      rw [Table.visibleRows_eq_map]
      exact List.map_map
    rw [visible, List.forall₂_map_right_iff]
    refine listed.imp ?_
    rintro entry row ⟨-, -, rates⟩ showable
    obtain ⟨text, done, -, short⟩ := showable.exists_rateText
    cases rates.symm.trans done
    refine ⟨row.rates, rates, ?_⟩
    rw [getLast?_shownTexts_table ends, Option.some.injEq, shorten_rates_iff, short]

/-- Two rates have at most 23 characters, and are shown as they are in each of the three tables at
every width, unless one is rounded up to a thousand of its unit and the other is at least a
hundred of its own. -/
theorem rates_stand_whole_unless_overlong (snapshot : Snapshot) (hostnames : Hostnames) :
    (∀ up down : Int, 0 ≤ up → up ≤ 999000000000 → 0 ≤ down → down ≤ 999000000000 →
      ∃ text, Rate.pairText up down = .ok text ∧ text.length ≤ 25 ∧
        (text.length ≤ 23 ↔ ¬(⟨up, down⟩ : Volume).IsOverlong)) ∧
    ShowsRates (·.2.volume) snapshot.processes.entries (processes snapshot) ∧
    ShowsRates (·.2.volume) snapshot.connections.entries (connections snapshot hostnames) ∧
    ShowsRates (·.2.volume) snapshot.remotes.entries (remotes snapshot hostnames) := by
  refine ⟨?_, ?_, ?_, ?_⟩
  · intro up down upNonneg upBound downNonneg downBound
    exact Rate.exists_pairText upNonneg upBound downNonneg downBound
  · exact showsRates_of_lists endsInRates_narrowBreakpoints fun _ => processes_eq_ok_iff
  · exact showsRates_of_lists endsInRates_wideBreakpoints fun _ => connections_eq_ok_iff
  · exact showsRates_of_lists endsInRates_wideBreakpoints fun _ => remotes_eq_ok_iff

/-- The largest count that three digits show, and the last one below a thousand of its unit. -/
theorem rates_stand_whole_largest : ∃ text,
    Rate.pairText 999000000000 999994 = .ok text ∧ text.length ≤ 23 := by
  obtain ⟨lengths, -⟩ := rates_stand_whole_unless_overlong ⟨.empty, .empty, .empty, ⟨0, 0⟩⟩ .empty
  obtain ⟨text, done, -, short⟩ :=
    lengths 999000000000 999994 (by decide) (by decide) (by decide) (by decide)
  exact ⟨text, done, short.2 (by decide)⟩

/-- A process that moved just less than a thousand kilobytes in both directions. -/
def roundedProcess : Snapshot where
  connections := .empty
  processes := ⟨[("firefox", ⟨⟨999999, 999999⟩, 1⟩)], List.pairwise_singleton _ _⟩
  remotes := .empty
  total := ⟨999999, 999999⟩

/-- The table of that process. -/
def roundedTable : Table :=
  table "Utilization by process name" ("Process", "Connections", "Rate Up / Down")
    narrowBreakpoints zero_mem_keys_narrowBreakpoints forall_needed_narrowBreakpoints
    [⟨"firefox", "1", "1000.00KBps / 1000.00KBps"⟩]

theorem processes_roundedProcess : processes roundedProcess = .ok roundedTable := by
  have rates : (⟨999999, 999999⟩ : Volume).rateText = .ok "1000.00KBps / 1000.00KBps" := by
    decide +kernel
  refine processes_eq_ok_iff.2 ⟨_, ?_, rfl⟩
  rw [busiestFirst, roundedProcess, List.mergeSort_singleton]
  exact .cons ⟨rfl, by decide, rates⟩ .nil

theorem layout_roundedTable : (roundedTable.layout 60).columns = threeColumns 12 12 rateWidth := by
  rw [roundedTable, layout_table (by decide) (by decide : Layout.lastBelow 60
    narrowBreakpoints.entries = some (50, threeColumns 12 12 rateWidth))]

/-- Two rates that are rounded up to a thousand kilobytes have 25 characters, and the table shows
them without their middle. -/
theorem rates_of_thousand_are_shortened :
    (0 : Int) ≤ 999999 ∧ (999999 : Int) ≤ 999000000000 ∧
      Rate.pairText 999999 999999 = .ok "1000.00KBps / 1000.00KBps" ∧
      ¬"1000.00KBps / 1000.00KBps".length ≤ 23 ∧
      processes roundedProcess = .ok roundedTable ∧
      roundedTable.visibleRows 60 = [["firefox", "1", "1000.00KB[..]00.00KBps"]] := by
  have visible : roundedTable.visibleRows 60 = [["firefox", "1", "1000.00KB[..]00.00KBps"]] := by
    have rows : roundedTable.rows = [["firefox", "1", "1000.00KBps / 1000.00KBps"]] := rfl
    rw [Table.visibleRows_eq_map, rows, List.map_singleton, Table.shownTexts,
      layout_roundedTable]
    decide
  exact ⟨by decide, by decide, by decide +kernel, by decide, processes_roundedProcess, visible⟩

end Utilization

end TrafficBoard
