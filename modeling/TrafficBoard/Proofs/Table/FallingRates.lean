import TrafficBoard.Proofs.RateAmounts
import TrafficBoard.Proofs.Table.Listing
import TrafficBoard.Proofs.Traffic.Ranking
import TrafficBoard.Proofs.Traffic.VolumeSum

/-!
# Rates fall down a table

A utilization table ranks its entries by their counts, and what its rates denote follows the
counts.  So from row to row the larger one of the two rates never rises, although it is rounded
and its unit changes.
-/

namespace TrafficBoard

namespace Rate

/-- The larger one of the two amounts that a text shows. -/
def largerAmount? (text : String) : Option ℚ :=
  match Text.divide? [' ', '/', ' '] text.toList with
  | none => none
  | some (up, down) =>
      match amount? (String.ofList up), amount? (String.ofList down) with
      | some upload, some download => some (max upload download)
      | _, _ => none

theorem space_notMem_text_shown (count : Nat) : ' ' ∉ (shown count).text.toList := by
  intro member
  rw [shown] at member
  cases chosen : unitOf count with
  | none =>
      simp only [chosen, text, String.toList_append, List.mem_append] at member
      rcases member with number | label
      · exact absurd (@isDecimal_of_mem_repr count _ number) (by decide)
      · exact absurd label (by decide)
  | some unit =>
      simp only [chosen, text, String.toList_append, List.mem_append] at member
      rcases member with number | label
      · exact absurd (isDecimal_of_mem_pointedText number) (by decide)
      · revert label
        cases unit <;> decide

theorem largerAmount?_shown (up down : Nat) :
    largerAmount? ((shown up).text ++ " / " ++ (shown down).text) =
      some (shownAmount (max up down) : ℚ) := by
  have parts : ((shown up).text ++ " / " ++ (shown down).text).toList =
      (shown up).text.toList ++ ' ' :: (['/', ' '] ++ (shown down).text.toList) := by
    simp
  have larger : shownAmount (max up down) = max (shownAmount up) (shownAmount down) :=
    shownAmount_mono.map_max
  rw [largerAmount?, parts, Text.divide?_front (space_notMem_text_shown up)]
  simp only [String.ofList_toList, amount?_text_shown, larger, Nat.cast_max]

/-- The counts of rates that exist are below the boundary. -/
theorem ofCount_eq_shown {count : Nat} {rate : Rate} (done : ofCount count = .ok rate) :
    rate = shown count := by
  by_cases below : count < Double.overflow
  · exact Except.ok.inj (done.symm.trans (ofCount_natural below))
  · have failed : ofCount count = .error .tooLarge := ofCount_of_overflow_le (Nat.not_lt.1 below)
    cases done.symm.trans failed

/-- A count that has a double has a rate, and so has every smaller one, which never denotes more. -/
theorem exists_amounts {count larger : Int} (nonneg : 0 ≤ count) (le : count ≤ larger)
    {double : Double} (converts : Double.ofCount larger = .ok double) :
    ∃ rate largerRate amount largerAmount,
      ofCount count = .ok rate ∧ ofCount larger = .ok largerRate ∧
      amount? rate.text = some amount ∧ amount? largerRate.text = some largerAmount ∧
      amount ≤ largerAmount := by
  obtain ⟨small, rfl⟩ := Int.eq_ofNat_of_zero_le nonneg
  obtain ⟨large, rfl⟩ := Int.eq_ofNat_of_zero_le (Int.le_trans nonneg le)
  have below : large < Double.overflow := by
    by_contra atLeast
    cases converts.symm.trans (Double.ofCount_of_overflow_le (Nat.not_lt.1 atLeast))
  have order : small ≤ large := Int.ofNat_le.1 le
  exact ⟨_, _, _, _, ofCount_natural (Nat.lt_of_le_of_lt order below), ofCount_natural below,
    amount?_text_shown small, amount?_text_shown large, Nat.cast_le.2 (shownAmount_mono order)⟩

end Rate

/-- Whether no count of a snapshot's views is negative. -/
structure Snapshot.IsNonnegative (snapshot : Snapshot) : Prop where
  connections : ∀ entry ∈ snapshot.connections.entries, entry.2.volume.IsCount
  processes : ∀ entry ∈ snapshot.processes.entries, entry.2.volume.IsCount
  remotes : ∀ entry ∈ snapshot.remotes.entries, entry.2.volume.IsCount

namespace Volume

/-- The larger rate of a volume denotes what the rate of its peak denotes. -/
theorem largerAmount?_rateText {volume : Volume} (count : volume.IsCount) {text : String}
    (done : volume.rateText = .ok text) :
    Rate.largerAmount? text = some (Rate.shownAmount volume.peak.toNat : ℚ) := by
  obtain ⟨up, down⟩ := volume
  obtain ⟨up, rfl⟩ := Int.eq_ofNat_of_zero_le count.1
  obtain ⟨down, rfl⟩ := Int.eq_ofNat_of_zero_le count.2
  obtain ⟨upload, uploadDone, rest⟩ := Attempt.bind_eq_ok_iff.1 done
  obtain ⟨download, downloadDone, same⟩ := Attempt.bind_eq_ok_iff.1 rest
  cases same
  have peak : (Volume.peak ⟨up, down⟩).toNat = max up down := by
    simp only [Volume.peak]
    omega
  rw [Rate.ofCount_eq_shown uploadDone, Rate.ofCount_eq_shown downloadDone,
    Rate.largerAmount?_shown, peak]

end Volume

namespace Utilization

/-- Whether each row of a table shows two rates in its third cell, and the larger one never rises
from one row to a later one. -/
def ShowsFallingRates (result : Table) : Prop :=
  ∃ amounts : List ℚ,
    (result.rows.map fun row => row[2]?.bind Rate.largerAmount?) = amounts.map some ∧
      amounts.Pairwise fun amount later => later ≤ amount

theorem showsFallingRates_of_lists {α : Type} {first second : α → String} {volume : α → Volume}
    {entries : List α} {rows : List Row} (counts : ∀ entry ∈ entries, (volume entry).IsCount)
    (listed : Lists first second volume (busiestFirst volume entries) rows)
    {title : String} {columns : String × String × String} {breakpoints : Keyed Int Columns}
    {base : 0 ∈ breakpoints.keys}
    {fits : ∀ entry ∈ breakpoints.entries, entry.2.count.needed ≤ 3} :
    ShowsFallingRates (table title columns breakpoints base fits rows) := by
  let ranked := busiestFirst volume entries
  have counted : ∀ entry ∈ ranked, (volume entry).IsCount := fun entry member =>
    counts entry ((perm_busiestFirst volume entries).mem_iff.1 member)
  refine ⟨ranked.map fun entry => (Rate.shownAmount (volume entry).peak.toNat : ℚ), ?_, ?_⟩
  · have cells : (table title columns breakpoints base fits rows).rows.map
        (fun cells => cells[2]?.bind Rate.largerAmount?) =
          rows.map fun row => Rate.largerAmount? row.rates := by
      rw [table, List.map_map]
      rfl
    rw [cells, List.map_map, ← List.forall₂_eq_eq_eq, List.forall₂_map_left_iff,
      List.forall₂_map_right_iff]
    have countedRows := (List.forall₂_and_left _ _).2 ⟨counted, listed⟩
    refine countedRows.flip.imp ?_
    rintro row entry ⟨count, -, -, done⟩
    exact Volume.largerAmount?_rateText count done
  · rw [List.pairwise_map]
    refine (falling_busiestFirst volume entries).imp ?_
    intro entry later le
    exact Nat.cast_le.2 (Rate.shownAmount_mono (Int.toNat_le_toNat le))

/-- A larger count never denotes less where it is shown, so the larger one of the two rates in a
row never rises down a table of counts. -/
theorem shown_rates_follow_ranking :
    (∀ count larger : Int, 0 ≤ count → count ≤ larger →
      ∀ double, Double.ofCount larger = .ok double →
        ∃ rate largerRate amount largerAmount,
          Rate.ofCount count = .ok rate ∧ Rate.ofCount larger = .ok largerRate ∧
          Rate.amount? rate.text = some amount ∧
          Rate.amount? largerRate.text = some largerAmount ∧ amount ≤ largerAmount) ∧
    ∀ (snapshot : Snapshot) (hostnames : Hostnames), snapshot.IsNonnegative → ∀ result,
      processes snapshot = .ok result ∨ connections snapshot hostnames = .ok result ∨
        remotes snapshot hostnames = .ok result → ShowsFallingRates result := by
  refine ⟨fun count larger nonneg le double => Rate.exists_amounts nonneg le, ?_⟩
  rintro snapshot hostnames nonneg result (made | made | made)
  · obtain ⟨rows, listed, rfl⟩ := processes_eq_ok_iff.1 made
    exact showsFallingRates_of_lists nonneg.processes listed
  · obtain ⟨rows, listed, rfl⟩ := connections_eq_ok_iff.1 made
    exact showsFallingRates_of_lists nonneg.connections listed
  · obtain ⟨rows, listed, rfl⟩ := remotes_eq_ok_iff.1 made
    exact showsFallingRates_of_lists nonneg.remotes listed

/-- Two processes on both sides of a million bytes. -/
def edgeProcesses : Snapshot where
  connections := .empty
  processes := ⟨[("curl", ⟨⟨999999, 0⟩, 1⟩), ("firefox", ⟨⟨5, 1000000⟩, 1⟩)], by decide⟩
  remotes := .empty
  total := ⟨1000004, 1000000⟩

/-- The table of those processes. -/
def edgeTable : Table :=
  table "Utilization by process name" ("Process", "Connections", "Rate Up / Down")
    narrowBreakpoints zero_mem_keys_narrowBreakpoints forall_needed_narrowBreakpoints
    [⟨"firefox", "1", "5Bps / 1.00MBps"⟩, ⟨"curl", "1", "1000.00KBps / 0Bps"⟩]

theorem processes_edgeProcesses : processes edgeProcesses = .ok edgeTable := by
  have ranked : busiestFirst (·.2.volume) edgeProcesses.processes.entries =
      [("firefox", ⟨⟨5, 1000000⟩, 1⟩), ("curl", ⟨⟨999999, 0⟩, 1⟩)] := by
    apply busiestFirst_eq
    · decide
    · intro peak
      by_cases highest : 1000000 = peak
      · subst highest
        rfl
      · simp [edgeProcesses, Volume.peak, List.filter_cons, highest]
  have firefox : (⟨5, 1000000⟩ : Volume).rateText = .ok "5Bps / 1.00MBps" := by decide +kernel
  have curl : (⟨999999, 0⟩ : Volume).rateText = .ok "1000.00KBps / 0Bps" := by decide +kernel
  refine processes_eq_ok_iff.2 ⟨_, ?_, rfl⟩
  rw [ranked]
  exact .cons ⟨rfl, by decide, firefox⟩ (.cons ⟨rfl, by decide, curl⟩ .nil)

/-- The count that is rounded up to a million bytes stands below the count that comes to it. -/
theorem shown_rates_follow_ranking_million :
    (∃ rate largerRate amount largerAmount,
      Rate.ofCount 999999 = .ok rate ∧ Rate.ofCount 1000000 = .ok largerRate ∧
      Rate.amount? rate.text = some amount ∧
      Rate.amount? largerRate.text = some largerAmount ∧ amount ≤ largerAmount) ∧
    edgeProcesses.IsNonnegative ∧ processes edgeProcesses = .ok edgeTable ∧
    ShowsFallingRates edgeTable := by
  obtain ⟨counts, tables⟩ := shown_rates_follow_ranking
  have nonneg : edgeProcesses.IsNonnegative := by
    constructor <;> decide
  have converts := @Double.ofCount_natural 1000000 (by decide +kernel)
  exact ⟨counts 999999 1000000 (by decide) (by decide) _ converts, nonneg, processes_edgeProcesses,
    tables edgeProcesses .empty nonneg edgeTable (.inl processes_edgeProcesses)⟩

end Utilization

end TrafficBoard
