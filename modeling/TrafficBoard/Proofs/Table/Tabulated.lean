import TrafficBoard.Proofs.Dashboard.Frames
import TrafficBoard.Proofs.Traffic.Ranking

/-!
# Every entry has its row

A utilization table has one row for each entry of its view.  The rows follow the ranking
of the entries, and each is made from its entry alone.  There is no table exactly if a
count of the view is too large for a double.

The ranking and the rates are chosen before the hostnames are, so hostnames change
nothing but the first texts.
-/

namespace TrafficBoard

/-- Parts that fit are accepted, and nothing is changed about them. -/
theorem Table.make_table {title left middle right : String} {breakpoints : Keyed Int Columns}
    (base : 0 ∈ breakpoints.keys)
    (fits : ∀ entry ∈ breakpoints.entries, entry.2.count.needed ≤ 3)
    (rows : List Utilization.Row) :
    Table.make title [left, middle, right] (rows.map Utilization.Row.cells) breakpoints =
      .ok (Utilization.table title (left, middle, right) breakpoints base fits rows) := by
  rw [Table.make, dif_pos base]
  split
  · next entry unfit =>
      have tooMany := List.find?_some unfit
      rw [decide_eq_true_iff] at tooMany
      exact absurd (fits entry (List.mem_of_find?_eq_some unfit)) (Nat.not_le.2 tooMany)
  · split
    · next cells ragged =>
        have wrong := List.find?_some ragged
        simp [Utilization.length_of_mem_cells (List.mem_of_find?_eq_some ragged)] at wrong
    · rfl

/-- A text is made of the two rates of a volume, upload first. -/
def Volume.ShowsRates (volume : Volume) (text : String) : Prop :=
  ∃ upload download, Rate.ofCount volume.up = .ok upload ∧
    Rate.ofCount volume.down = .ok download ∧ text = upload.text ++ " / " ++ download.text

/-- The rates of a volume, or nothing where it has none. -/
def Volume.shownRates (volume : Volume) : String := volume.rateText.toOption.getD ""

theorem Volume.rateText_of_not_overflows {volume : Volume} (fits : ¬ volume.Overflows) :
    volume.rateText = .ok volume.shownRates := by
  obtain ⟨text, done⟩ := hasRates_iff.2 fits
  rw [shownRates, done]
  rfl

theorem Volume.showsRates_shownRates {volume : Volume} (fits : ¬ volume.Overflows) :
    volume.ShowsRates volume.shownRates := by
  obtain ⟨upload, download, uploadDone, downloadDone, done⟩ := exists_rates fits
  rw [rateText_of_not_overflows fits] at done
  exact ⟨upload, download, uploadDone, downloadDone, Except.ok.inj done⟩

namespace Utilization

/-- A way to make tables from hostnames keeps the entries of a view.  It fails exactly if
a count of the view is too large for a double.  Otherwise the constructor accepts its
tables, and their rows are those of the ranked entries: a first text, which may depend on
the hostnames, a second text and the rates. -/
structure KeepsEntries {α : Type} (title : String) (columns : List String)
    (breakpoints : Keyed Int Columns) (entries : List α) (volume : α → Volume)
    (first : Hostnames → α → String) (second : α → String)
    (make : Hostnames → Except NumberError Table) : Prop where
  fails_iff : ∀ hostnames,
    make hostnames = .error .tooLarge ↔ ∃ entry ∈ entries, (volume entry).Overflows
  rows : (¬ ∃ entry ∈ entries, (volume entry).Overflows) →
    ∃ (ranked : List α) (rates : α → String), IsRanking volume entries ranked ∧
      (∀ entry ∈ ranked, (volume entry).ShowsRates (rates entry)) ∧
      ∀ hostnames, ∃ result, make hostnames = .ok result ∧
        Table.make title columns result.rows breakpoints = .ok result ∧
        result.rows = ranked.map fun entry => [first hostnames entry, second entry, rates entry]

section Factory

variable {α : Type} {volume : α → Volume} {entries : List α}
variable {first second : α → String} {attempt : α → Except NumberError Row}

/-- Rows are not made if a volume overflows. -/
theorem mapM_row_of_overflows
    (shape : ∀ entry, attempt entry = do
      let rates ← (volume entry).rateText
      return ⟨first entry, second entry, rates⟩)
    (overflows : ∃ entry ∈ entries, (volume entry).Overflows) :
    (busiestFirst volume entries).mapM attempt = .error .tooLarge := by
  have fails : ∀ entry, (volume entry).Overflows → attempt entry = .error .tooLarge := by
    intro entry large
    rw [shape, Volume.rateText_of_overflows large]
    rfl
  have succeeds : ∀ entry, ¬ (volume entry).Overflows → ∃ row, attempt entry = .ok row := by
    intro entry small
    rw [shape, Volume.rateText_of_not_overflows small]
    exact ⟨_, rfl⟩
  obtain ⟨failing, member, large⟩ := overflows
  apply Attempt.mapM_eq_error _ ((perm_busiestFirst volume entries).mem_iff.2 member)
    (fails failing large)
  intro entry _
  exact (Decidable.em (volume entry).Overflows).imp (fails entry) (succeeds entry)

/-- Entries that do not overflow are listed with their rates. -/
theorem lists_of_not_overflows (fits : ∀ entry ∈ entries, ¬ (volume entry).Overflows) :
    Lists first second volume entries
      (entries.map fun entry => ⟨first entry, second entry, (volume entry).shownRates⟩) := by
  rw [Lists, List.forall₂_map_right_iff, List.forall₂_same]
  intro entry member
  refine ⟨rfl, rfl, ?_⟩
  rw [Volume.rateText_of_not_overflows (fits entry member)]

end Factory

/-- Tables made of the rows of ranked entries keep the entries. -/
theorem keepsEntries_of_shape {α : Type} {volume : α → Volume} {entries : List α}
    {first : Hostnames → α → String} {second : α → String}
    (attempt : Hostnames → α → Except NumberError Row)
    (shape : ∀ hostnames entry, attempt hostnames entry = do
      let rates ← (volume entry).rateText
      return ⟨first hostnames entry, second entry, rates⟩)
    {title left middle right : String} {breakpoints : Keyed Int Columns}
    {base : 0 ∈ breakpoints.keys}
    {fits : ∀ entry ∈ breakpoints.entries, entry.2.count.needed ≤ 3} :
    KeepsEntries title [left, middle, right] breakpoints entries volume first second
      fun hostnames => do
        let rows ← (busiestFirst volume entries).mapM (attempt hostnames)
        return table title (left, middle, right) breakpoints base fits rows := by
  let ranked := busiestFirst volume entries
  let rowsOf (hostnames : Hostnames) := ranked.map fun entry =>
    Row.mk (first hostnames entry) (second entry) (volume entry).shownRates
  have rankedFits (small : ¬ ∃ entry ∈ entries, (volume entry).Overflows) :
      ∀ entry ∈ ranked, ¬ (volume entry).Overflows := fun entry member large =>
    small ⟨entry, (perm_busiestFirst volume entries).mem_iff.1 member, large⟩
  have made (small : ¬ ∃ entry ∈ entries, (volume entry).Overflows) (hostnames : Hostnames) :
      (do
        let rows ← ranked.mapM (attempt hostnames)
        return table title (left, middle, right) breakpoints base fits rows) =
      .ok (table title (left, middle, right) breakpoints base fits (rowsOf hostnames)) :=
    (makeRanked_eq_ok_iff (shape hostnames)).2 ⟨_, lists_of_not_overflows (rankedFits small), rfl⟩
  constructor
  case fails_iff =>
    intro hostnames
    constructor
    · intro failed
      by_contra small
      cases failed.symm.trans (made small hostnames)
    · intro overflows
      simp only [mapM_row_of_overflows (shape hostnames) overflows]
      rfl
  case rows =>
    intro small
    refine ⟨ranked, fun entry => (volume entry).shownRates, isRanking_busiestFirst volume entries,
      fun entry member => Volume.showsRates_shownRates (rankedFits small entry member),
      fun hostnames => ⟨_, made small hostnames, Table.make_table base fits _, ?_⟩⟩
    simp [table, rowsOf, Row.cells]

/-- The tables of a snapshot keep the entries of its views, and fail only on counts that
no double can hold. -/
theorem factories_keep_entries (snapshot : Snapshot) :
    KeepsEntries "Utilization by process name" ["Process", "Connections", "Rate Up / Down"]
      narrowBreakpoints snapshot.processes.entries (·.2.volume) (fun _ entry => entry.1)
      (fun entry => toString entry.2.connections) (fun _ => processes snapshot) ∧
    KeepsEntries "Utilization by connection" ["Connection", "Process", "Rate Up / Down"]
      wideBreakpoints snapshot.connections.entries (·.2.volume)
      (fun hostnames entry =>
        entry.1.displayAs (entry.1.address.display hostnames) entry.2.interface)
      (·.2.process) (connections snapshot) ∧
    KeepsEntries "Utilization by remote address"
      ["Remote Address", "Connections", "Rate Up / Down"] wideBreakpoints
      snapshot.remotes.entries (·.2.volume) (fun hostnames entry => entry.1.display hostnames)
      (fun entry => toString entry.2.connections) (remotes snapshot) :=
  ⟨keepsEntries_of_shape (fun _ => processRow) fun _ _ => rfl,
    keepsEntries_of_shape connectionRow fun _ _ => rfl,
    keepsEntries_of_shape remoteRow fun _ _ => rfl⟩

end Utilization

end TrafficBoard
