import Mathlib.Algebra.Ring.Int.Defs
import TrafficBoard.Proofs.Traffic.History

/-!
# The views of a snapshot agree

A snapshot shows the connections, and groups of them by process and by remote
address.  Both groupings hold every listed connection once, so the three views
show the same bytes and the groups count the listed connections.

The total shows more where a connection was forgotten: exactly the bytes that the
connection held at that moment.
-/

namespace TrafficBoard.Ledger

/-! ## Groupings -/

/-- Groups that stand in the order of their first members, each with the bytes and the
number of the entries that have its key. -/
structure IsGrouping {κ : Type} [DecidableEq κ] (key : Connection × ConnectionUse → κ)
    (entries : List (Connection × ConnectionUse)) (groups : Keyed κ GroupUse) : Prop where
  keys : groups.keys = (entries.map key).eraseDups
  uses : ∀ name ∈ entries.map key, groups.find? name =
    some ⟨((entries.filter (key · = name)).map (·.2.volume)).sum,
      (entries.filter (key · = name)).length⟩

section Groups

variable {κ : Type} [DecidableEq κ] (key : Connection × ConnectionUse → κ)
variable (entries : List (Connection × ConnectionUse))

theorem isGrouping_groupsOf : IsGrouping key entries (groupsOf key entries) where
  keys := Keyed.keys_grouped ..
  uses name named := by
    rw [groupsOf, Keyed.find?_grouped, if_pos named]
    rfl

/-- The groups show together the bytes of the entries. -/
theorem sum_volume_groupsOf :
    ((groupsOf key entries).values.map (·.volume)).sum = (entries.map (·.2.volume)).sum := by
  apply Keyed.sum_grouped
  intro members
  rfl

/-- The groups count together the entries. -/
theorem sum_connections_groupsOf :
    ((groupsOf key entries).values.map (·.connections)).sum = entries.length := by
  have counted : ((groupsOf key entries).values.map (·.connections)).sum =
      (entries.map fun _ => (1 : Int)).sum := by
    apply Keyed.sum_grouped
    intro members
    simp [groupOf]
  rw [counted]
  simp

end Groups

/-- The listed connections show together the bytes of the records that stand. -/
theorem sum_volume_usesOf (observations : List Observation) :
    ((usesOf observations).entries.map (·.2.volume)).sum = volumeOf observations := by
  have summed : ((usesOf observations).values.map (·.volume)).sum = volumeOf observations := by
    apply Keyed.sum_grouped
    intro members
    cases members with
    | nil => rfl
    | cons first rest => rfl
  rw [← summed, Keyed.values, List.map_map]
  rfl

/-! ## Forgotten bytes -/

/-- The bytes that a ledger holds for a connection. -/
def held (ledger : Ledger) (connection : Connection) : Volume :=
  ((ledger.connections.find? connection).map (·.volume)).getD 0

/-- The bytes that a connection holds at the moment an operation forgets it. -/
def dropped (ledger : Ledger) : Operation → List Volume
  | .forget connection => [ledger.held connection]
  | _ => []

/-- The bytes dropped by each forgetting that no reset follows, oldest first. -/
def forgottenFrom (ledger : Ledger) : List Operation → List Volume
  | [] => []
  | operation :: later =>
      (if later.any Operation.isReset then [] else ledger.dropped operation) ++
        forgottenFrom (ledger.perform operation).1 later

/-- The bytes held by connections when they were forgotten since the last reset. -/
def forgotten (history : List Operation) : List Volume := empty.forgottenFrom history

theorem forgottenFrom_concat (ledger : Ledger) (operations : List Operation)
    (operation : Operation) :
    ledger.forgottenFrom (operations ++ [operation]) =
      (if operation.isReset then [] else ledger.forgottenFrom operations) ++
        (ledger.performAll operations).dropped operation := by
  induction operations generalizing ledger with
  | nil => cases operation <;> rfl
  | cons first later ih =>
      rw [List.cons_append, forgottenFrom, ih, forgottenFrom, List.any_append, List.any_cons,
        List.any_nil, Bool.or_false]
      have same : (ledger.perform first).1.performAll later = ledger.performAll (first :: later) :=
        rfl
      rw [same]
      cases operation.isReset with
      | true => simp
      | false => simp

theorem forgotten_concat (history : List Operation) (operation : Operation) :
    forgotten (history ++ [operation]) =
      (if operation.isReset then [] else forgotten history) ++
        (after history).dropped operation :=
  forgottenFrom_concat empty history operation

/-- A ledger holds for a connection the bytes of its window. -/
theorem held_after (history : List Operation) (connection : Connection) :
    (after history).held connection = volumeOf (window history connection) := by
  rw [held, connections_after, find?_usesOf_live]
  cases window history connection with
  | nil => rfl
  | cons first rest => rfl

theorem forgotten_record (history : List Operation) (observation : Observation) :
    forgotten (history ++ [.record observation]) = forgotten history := by
  rw [forgotten_concat]
  exact List.append_nil _

theorem forgotten_forget (history : List Operation) (connection : Connection) :
    forgotten (history ++ [.forget connection]) =
      forgotten history ++ [volumeOf (window history connection)] := by
  rw [forgotten_concat, ← held_after]
  rfl

theorem forgotten_reset (history : List Operation) : forgotten (history ++ [.reset]) = [] := by
  rw [forgotten_concat]
  rfl

theorem isCount_volumeOf_window (history : List Operation) (connection : Connection) :
    (volumeOf (window history connection)).IsCount := by
  apply Volume.isCount_sum
  intro volume member
  obtain ⟨observation, inWindow, rfl⟩ := List.mem_map.1 member
  obtain ⟨_, _, _, count, _⟩ := mem_standing_iff.1 (List.mem_filter.1 inWindow).1
  exact count

/-- No forgotten bytes are negative. -/
theorem isCount_of_mem_forgotten {history : List Operation} {volume : Volume}
    (member : volume ∈ forgotten history) : volume.IsCount := by
  induction history using List.reverseRecOn with
  | nil => cases member
  | append_singleton history operation ih =>
      cases operation with
      | record observation =>
          rw [forgotten_record] at member
          exact ih member
      | forget connection =>
          rw [forgotten_forget, List.mem_append, List.mem_singleton] at member
          rcases member with old | rfl
          · exact ih old
          · exact isCount_volumeOf_window history connection
      | reset =>
          rw [forgotten_reset] at member
          cases member

/-! ## Conservation -/

/-- The bytes of a connection and those of the others are all bytes. -/
theorem volumeOf_filter_ne (observations : List Observation) (connection : Connection) :
    volumeOf (observations.filter (·.connection ≠ connection)) +
        volumeOf (observations.filter (·.connection = connection)) = volumeOf observations := by
  have split := List.filter_append_perm
    (fun observation : Observation => decide (observation.connection = connection)) observations
  have summed := (split.map (·.volume)).sum_eq
  rw [List.map_append, List.sum_append, add_comm] at summed
  simpa only [volumeOf, decide_not] using summed

/-- What was accepted since the last reset is what stands and what was forgotten. -/
theorem volumeOf_sinceReset (history : List Operation) :
    volumeOf (sinceReset history) = volumeOf (live history) + (forgotten history).sum := by
  induction history using List.reverseRecOn with
  | nil => rfl
  | append_singleton history operation ih =>
      cases operation with
      | record observation =>
          rw [sinceReset_record, live_record, forgotten_record, volumeOf_append, volumeOf_append,
            ih, add_right_comm]
      | forget connection =>
          have split := volumeOf_filter_ne (live history) connection
          rw [sinceReset_forget, live_forget, forgotten_forget, List.sum_append,
            List.sum_singleton, ih, ← split, window]
          rw [add_right_comm, add_assoc]
      | reset =>
          rw [sinceReset_reset, live_reset, forgotten_reset]
          rfl

/-- The three views of a snapshot agree on bytes and on numbers of connections.  The total
exceeds them by the bytes that connections held when they were forgotten. -/
theorem views_agree (history : List Operation) :
    let snapshot := (after history).snapshot
    let entries := snapshot.connections.entries
    let listed := (entries.map (·.2.volume)).sum
    IsGrouping (·.2.process) entries snapshot.processes ∧
      IsGrouping (·.1.address) entries snapshot.remotes ∧
      (snapshot.processes.values.map (·.volume)).sum = listed ∧
      (snapshot.remotes.values.map (·.volume)).sum = listed ∧
      (snapshot.processes.values.map (·.connections)).sum = snapshot.connections.size ∧
      (snapshot.remotes.values.map (·.connections)).sum = snapshot.connections.size ∧
      snapshot.total - listed = (forgotten history).sum ∧
      0 ≤ (snapshot.total - listed).up ∧ 0 ≤ (snapshot.total - listed).down ∧
      ((∀ volume ∈ forgotten history, volume.up = 0) → snapshot.total.up = listed.up) ∧
      ((∀ volume ∈ forgotten history, volume.down = 0) → snapshot.total.down = listed.down) := by
  intro snapshot entries listed
  have shown : snapshot = snapshotOf history := snapshot_eq_snapshotOf history
  have listedVolume : listed = volumeOf (live history) := by
    simp only [listed, entries, shown]
    exact sum_volume_usesOf (live history)
  have processes : snapshot.processes = groupsOf (·.2.process) entries := by
    simp only [entries, shown]
    rfl
  have remotes : snapshot.remotes = groupsOf (·.1.address) entries := by
    simp only [entries, shown]
    rfl
  have excess : snapshot.total - listed = (forgotten history).sum := by
    rw [listedVolume, shown, snapshotOf, volumeOf_sinceReset, add_sub_cancel_left]
  have count : (snapshot.total - listed).IsCount := by
    rw [excess]
    exact Volume.isCount_sum fun _ member => isCount_of_mem_forgotten member
  rw [processes, remotes]
  refine ⟨isGrouping_groupsOf _ _, isGrouping_groupsOf _ _, sum_volume_groupsOf _ _,
    sum_volume_groupsOf _ _, sum_connections_groupsOf _ _, sum_connections_groupsOf _ _,
    excess, count.1, count.2, ?_, ?_⟩
  · intro nothing
    have upward := congrArg Volume.up excess
    rw [Volume.up_sub] at upward
    exact sub_eq_zero.1 (upward.trans (Volume.direction_sum_eq_zero Volume.upHom nothing))
  · intro nothing
    have downward := congrArg Volume.down excess
    rw [Volume.down_sub] at downward
    exact sub_eq_zero.1 (downward.trans (Volume.direction_sum_eq_zero Volume.downHom nothing))

end TrafficBoard.Ledger
