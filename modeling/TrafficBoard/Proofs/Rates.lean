import TrafficBoard.Proofs.Attempts
import TrafficBoard.Proofs.Number.Overflow
import TrafficBoard.Traffic.Snapshot

/-!
# Volumes that have rates

A count is shown as a rate through a double.  It has one unless its magnitude is too
large for that, and a volume has its rates if neither of its counts is.
-/

namespace TrafficBoard

/-- A finite double always has a rate. -/
theorem Rate.exists_ofDouble (negative : Bool) (units : Nat) :
    ∃ rate, ofDouble (.finite negative units) = .ok rate := by
  rw [ofDouble]
  cases unitFor (.finite negative units) with
  | none => exact ⟨_, rfl⟩
  | some unit =>
      simp only
      split
      · exact ⟨_, rfl⟩
      · exact ⟨_, rfl⟩

theorem Rate.exists_ofCount {count : Int} (below : count.natAbs < Double.overflow) :
    ∃ rate, ofCount count = .ok rate := by
  obtain ⟨units, done⟩ := Double.exists_ofCount below
  obtain ⟨rate, shown⟩ := exists_ofDouble (count < 0) units
  exact ⟨rate, Attempt.bind_eq_ok_iff.2 ⟨_, done, shown⟩⟩

theorem Rate.ofCount_of_overflow_le {count : Int} (le : Double.overflow ≤ count.natAbs) :
    ofCount count = .error .tooLarge := by
  rw [ofCount, Double.ofCount_of_overflow_le le]
  rfl

/-- Whether both directions of a volume have rates. -/
def Volume.HasRates (volume : Volume) : Prop := ∃ text, volume.rateText = .ok text

/-- Whether a count of a volume is too large for a double. -/
def Volume.Overflows (volume : Volume) : Prop :=
  Double.overflow ≤ volume.up.natAbs ∨ Double.overflow ≤ volume.down.natAbs

instance (volume : Volume) : Decidable volume.Overflows :=
  inferInstanceAs (Decidable (_ ∨ _))

/-- A volume that does not overflow shows the rates of its two counts, upload first. -/
theorem Volume.exists_rates {volume : Volume} (fits : ¬ volume.Overflows) :
    ∃ upload download, Rate.ofCount volume.up = .ok upload ∧
      Rate.ofCount volume.down = .ok download ∧
      volume.rateText = .ok (upload.text ++ " / " ++ download.text) := by
  rw [Overflows, not_or, Nat.not_le, Nat.not_le] at fits
  obtain ⟨upload, uploadDone⟩ := Rate.exists_ofCount fits.1
  obtain ⟨download, downloadDone⟩ := Rate.exists_ofCount fits.2
  refine ⟨upload, download, uploadDone, downloadDone, ?_⟩
  exact Attempt.bind_eq_ok_iff.2
    ⟨upload, uploadDone, Attempt.bind_eq_ok_iff.2 ⟨download, downloadDone, rfl⟩⟩

theorem Volume.rateText_of_overflows {volume : Volume} (overflows : volume.Overflows) :
    volume.rateText = .error .tooLarge := by
  rw [rateText, Rate.pairText]
  by_cases large : Double.overflow ≤ volume.up.natAbs
  · rw [Rate.ofCount_of_overflow_le large]
    rfl
  · obtain ⟨upload, done⟩ := Rate.exists_ofCount (Nat.not_le.1 large)
    rw [done, Rate.ofCount_of_overflow_le (overflows.resolve_left large)]
    rfl

theorem Volume.hasRates_iff {volume : Volume} : volume.HasRates ↔ ¬ volume.Overflows := by
  constructor
  · rintro ⟨text, done⟩ overflows
    rw [rateText_of_overflows overflows] at done
    cases done
  · intro fits
    obtain ⟨upload, download, -, -, done⟩ := exists_rates fits
    exact ⟨_, done⟩

theorem Volume.hasRates_of_natAbs_le {volume : Volume} (up : volume.up.natAbs ≤ 2 ^ 1023)
    (down : volume.down.natAbs ≤ 2 ^ 1023) : volume.HasRates := by
  have boundary : 2 ^ 1023 < Double.overflow := by decide +kernel
  rw [hasRates_iff, Overflows, not_or, Nat.not_le, Nat.not_le]
  exact ⟨Nat.lt_of_le_of_lt up boundary, Nat.lt_of_le_of_lt down boundary⟩

/-- Every volume of a snapshot has its rates. -/
structure Snapshot.HasRates (snapshot : Snapshot) : Prop where
  connections : ∀ entry ∈ snapshot.connections.entries, entry.2.volume.HasRates
  processes : ∀ entry ∈ snapshot.processes.entries, entry.2.volume.HasRates
  remotes : ∀ entry ∈ snapshot.remotes.entries, entry.2.volume.HasRates
  total : snapshot.total.HasRates

theorem Snapshot.hasRates_iff {snapshot : Snapshot} :
    snapshot.HasRates ↔
      (∀ entry ∈ snapshot.connections.entries, ¬ entry.2.volume.Overflows) ∧
      (∀ entry ∈ snapshot.processes.entries, ¬ entry.2.volume.Overflows) ∧
      (∀ entry ∈ snapshot.remotes.entries, ¬ entry.2.volume.Overflows) ∧
      ¬ snapshot.total.Overflows := by
  simp only [← Volume.hasRates_iff]
  exact ⟨fun rates => ⟨rates.connections, rates.processes, rates.remotes, rates.total⟩,
    fun ⟨connections, processes, remotes, total⟩ => ⟨connections, processes, remotes, total⟩⟩

end TrafficBoard
