import TrafficBoard.Proofs.Rates
import TrafficBoard.Table.Utilization

/-!
# What the utilization tables list

Each of the three tables lists the entries of its view from the busiest down, one row
for each.  A row shows two texts of its entry and the rates of its volume.
-/

namespace TrafficBoard.Utilization

/-- Rows of entries: each shows two texts of its entry and the rates of its volume. -/
def Lists {α : Type} (first second : α → String) (volume : α → Volume) (entries : List α)
    (rows : List Row) : Prop :=
  List.Forall₂
    (fun entry row =>
      row.first = first entry ∧ row.second = second entry ∧
        (volume entry).rateText = .ok row.rates)
    entries rows

section Rows

variable {α : Type} {first second : α → String} {volume : α → Volume}
variable {attempt : α → Except NumberError Row}

/-- Rows are made for all entries exactly if each entry has its rates. -/
theorem mapM_row_eq_ok_iff {entries : List α} {rows : List Row}
    (shape : ∀ entry, attempt entry = do
      let rates ← (volume entry).rateText
      return ⟨first entry, second entry, rates⟩) :
    entries.mapM attempt = .ok rows ↔ Lists first second volume entries rows := by
  rw [Attempt.mapM_eq_ok_iff, Lists]
  have pointwise : ∀ entry row, attempt entry = .ok row ↔
      row.first = first entry ∧ row.second = second entry ∧
        (volume entry).rateText = .ok row.rates := by
    intro entry row
    rw [shape, Attempt.bind_eq_ok_iff]
    constructor
    · rintro ⟨rates, done, same⟩
      cases same
      exact ⟨rfl, rfl, done⟩
    · rintro ⟨sameFirst, sameSecond, done⟩
      refine ⟨row.rates, done, ?_⟩
      rw [← sameFirst, ← sameSecond]
      rfl
  simp only [pointwise]

end Rows

/-- A table is made of the rows of all entries, exactly if each entry has its rates. -/
theorem makeRanked_eq_ok_iff {α : Type} {first second : α → String} {volume : α → Volume}
    {attempt : α → Except NumberError Row} {entries : List α} {make : List Row → Table}
    {result : Table}
    (shape : ∀ entry, attempt entry = do
      let rates ← (volume entry).rateText
      return ⟨first entry, second entry, rates⟩) :
    (do
      let rows ← entries.mapM attempt
      return make rows) = .ok result ↔
      ∃ rows, Lists first second volume entries rows ∧ result = make rows := by
  rw [Attempt.bind_eq_ok_iff]
  simp only [mapM_row_eq_ok_iff shape]
  constructor
  · rintro ⟨rows, listed, same⟩
    cases same
    exact ⟨rows, listed, rfl⟩
  · rintro ⟨rows, listed, rfl⟩
    exact ⟨rows, listed, rfl⟩

/-- Ranked entries have rows if their volumes have rates. -/
theorem exists_lists {α : Type} (entries : List α) (first second : α → String)
    (volume : α → Volume) (rates : ∀ entry ∈ entries, (volume entry).HasRates) :
    ∃ rows, Lists first second volume (busiestFirst volume entries) rows := by
  apply Attempt.exists_forall₂
  intro entry member
  obtain ⟨text, done⟩ := rates entry (List.mem_mergeSort.1 member)
  exact ⟨⟨first entry, second entry, text⟩, rfl, rfl, done⟩

/-- Entries that are listed have rates. -/
theorem hasRates_of_lists {α : Type} {first second : α → String} {volume : α → Volume}
    {entries : List α} {rows : List Row}
    (listed : Lists first second volume (busiestFirst volume entries) rows) :
    ∀ entry ∈ entries, (volume entry).HasRates := by
  intro entry member
  obtain ⟨row, -, -, -, rates⟩ :=
    Attempt.exists_of_mem_left listed (List.mem_mergeSort.2 member)
  exact ⟨row.rates, rates⟩

variable {snapshot : Snapshot} {hostnames : Hostnames} {result : Table}

/-- The table of connections lists the connections with their processes. -/
theorem connections_eq_ok_iff :
    connections snapshot hostnames = .ok result ↔
      ∃ rows, Lists (fun entry => entry.1.display hostnames entry.2.interface) (·.2.process)
          (·.2.volume) (busiestFirst (·.2.volume) snapshot.connections.entries) rows ∧
        result = table "Utilization by connection" ("Connection", "Process", "Rate Up / Down")
          wideBreakpoints (by decide) (fun _ => needed_wideBreakpoints) rows :=
  makeRanked_eq_ok_iff fun _ => rfl

/-- The table of processes lists the processes with the numbers of their connections. -/
theorem processes_eq_ok_iff :
    processes snapshot = .ok result ↔
      ∃ rows, Lists (·.1) (fun entry => toString entry.2.connections)
          (·.2.volume) (busiestFirst (·.2.volume) snapshot.processes.entries) rows ∧
        result = table "Utilization by process name" ("Process", "Connections", "Rate Up / Down")
          narrowBreakpoints (by decide) (fun _ => needed_narrowBreakpoints) rows :=
  makeRanked_eq_ok_iff fun _ => rfl

/-- The table of remote addresses lists the addresses with the numbers of their
connections. -/
theorem remotes_eq_ok_iff :
    remotes snapshot hostnames = .ok result ↔
      ∃ rows, Lists (fun entry => entry.1.display hostnames)
          (fun entry => toString entry.2.connections)
          (·.2.volume) (busiestFirst (·.2.volume) snapshot.remotes.entries) rows ∧
        result = table "Utilization by remote address"
          ("Remote Address", "Connections", "Rate Up / Down")
          wideBreakpoints (by decide) (fun _ => needed_wideBreakpoints) rows :=
  makeRanked_eq_ok_iff fun _ => rfl

theorem zero_mem_keys_narrowBreakpoints : 0 ∈ narrowBreakpoints.keys := by decide

theorem forall_needed_narrowBreakpoints :
    ∀ entry ∈ narrowBreakpoints.entries, entry.2.count.needed ≤ 3 :=
  fun _ => needed_narrowBreakpoints

/-- The layout of a table at a width is that of the last of its rising breakpoints below. -/
theorem layout_table {breakpoints : Keyed Int Columns} {width least : Int} {shown : Columns}
    (rising : breakpoints.entries.Pairwise fun entry other => decide (entry.1 ≤ other.1) = true)
    (found : Layout.lastBelow width breakpoints.entries = some (least, shown))
    (title : String) (columns : String × String × String) (base : 0 ∈ breakpoints.keys)
    (fits : ∀ entry ∈ breakpoints.entries, entry.2.count.needed ≤ 3) (rows : List Row) :
    (table title columns breakpoints base fits rows).layout width =
      ⟨shown, Layout.spacingAt shown width⟩ := by
  have sorted : Layout.ascending breakpoints.entries = breakpoints.entries :=
    List.mergeSort_of_pairwise rising
  have last : Layout.lastBelow width
      (Layout.ascending (Layout.ascending breakpoints.entries)) = some (least, shown) := by
    rw [sorted, sorted]
    exact found
  simp only [Table.layout, Table.choice, Layout.choose, Layout.chosen, table, last,
    Option.getD_some]

end TrafficBoard.Utilization
