import TrafficBoard.Proofs.Keyed.Groups
import TrafficBoard.Proofs.Traffic.VolumeSum
import TrafficBoard.Traffic.Ledger

/-!
# Ledgers and their histories

A ledger is used by recording observations, forgetting connections and resetting.
The history of these operations alone says what a snapshot shows: an accepted
record stands until its connection is forgotten or everything is reset, and the
records of a connection that still stand are its window.

The total has windows of its own, which only a reset closes.
-/

namespace TrafficBoard.Ledger

/-- What is done to a ledger. -/
inductive Operation where
  | record (observation : Observation)
  | forget (connection : Connection)
  | reset
  deriving DecidableEq, Repr

/-- The ledger after an operation, and why the operation is refused if it is. -/
def perform (ledger : Ledger) : Operation → Ledger × Option Error
  | .record observation =>
      match ledger.record observation with
      | .ok next => (next, none)
      | .error error => (ledger, some error)
  | .forget connection => (ledger.forget connection, none)
  | .reset => (ledger.reset, none)

/-- The ledger after operations, oldest first. -/
def performAll (ledger : Ledger) (operations : List Operation) : Ledger :=
  operations.foldl (fun ledger operation => (ledger.perform operation).1) ledger

/-- The ledger that starts empty and has a history of operations. -/
def after (history : List Operation) : Ledger := empty.performAll history

theorem performAll_concat (ledger : Ledger) (operations : List Operation)
    (operation : Operation) :
    ledger.performAll (operations ++ [operation]) =
      ((ledger.performAll operations).perform operation).1 :=
  List.foldl_concat ..

theorem after_concat (history : List Operation) (operation : Operation) :
    after (history ++ [operation]) = ((after history).perform operation).1 :=
  performAll_concat empty history operation

/-! ## Records that stand -/

namespace Operation

/-- The observation of a record without negative counts. -/
def accepted? : Operation → Option Observation
  | .record observation => if observation.volume.IsCount then some observation else none
  | .forget _ => none
  | .reset => none

/-- Whether the operation is a reset. -/
def isReset : Operation → Bool
  | .reset => true
  | _ => false

/-- Whether the operation closes the window of a connection. -/
def closes (connection : Connection) : Operation → Bool
  | .record _ => false
  | .forget other => other = connection
  | .reset => true

end Operation

/-- The accepted records that no later operation discards, oldest first. -/
def standing (discards : Observation → Operation → Bool) : List Operation → List Observation
  | [] => []
  | operation :: later =>
      match operation.accepted? with
      | some observation =>
          if later.any (discards observation) then standing discards later
          else observation :: standing discards later
      | none => standing discards later

/-- The accepted records whose connection is neither forgotten nor reset later. -/
def live (history : List Operation) : List Observation :=
  standing (fun observation => Operation.closes observation.connection) history

/-- The accepted records since the last reset. -/
def sinceReset (history : List Operation) : List Observation :=
  standing (fun _ => Operation.isReset) history

/-- The accepted records of a connection since it was last forgotten or reset. -/
def window (history : List Operation) (connection : Connection) : List Observation :=
  (live history).filter (·.connection = connection)

/-- The bytes of observations together. -/
def volumeOf (observations : List Observation) : Volume := (observations.map (·.volume)).sum

/-- What a window shows: the names of its first record and the bytes of all. -/
def useOf : List Observation → ConnectionUse
  | [] => ⟨"", "", 0⟩
  | first :: rest => ⟨first.process, first.interface, volumeOf (first :: rest)⟩

/-- The connections of observations in the order of their first ones, each with what
its own observations show. -/
def usesOf (observations : List Observation) : Keyed Connection ConnectionUse :=
  .grouped (·.connection) useOf observations

/-- Entries as a group: the bytes of all of them and their number. -/
def groupOf (members : List (Connection × ConnectionUse)) : GroupUse :=
  ⟨(members.map (·.2.volume)).sum, members.length⟩

/-- The groups of entries by a key, in the order of their first members. -/
def groupsOf {κ : Type} [DecidableEq κ] (key : Connection × ConnectionUse → κ)
    (entries : List (Connection × ConnectionUse)) : Keyed κ GroupUse :=
  .grouped key groupOf entries

/-- The snapshot that a history of operations calls for. -/
def snapshotOf (history : List Operation) : Snapshot where
  connections := usesOf (live history)
  processes := groupsOf (·.2.process) (usesOf (live history)).entries
  remotes := groupsOf (·.1.address) (usesOf (live history)).entries
  total := volumeOf (sinceReset history)

/-! ## Which records stand -/

theorem Operation.accepted?_eq_some_iff {operation : Operation} {observation : Observation} :
    operation.accepted? = some observation ↔
      operation = .record observation ∧ observation.volume.IsCount := by
  cases operation with
  | record recorded =>
      simp only [accepted?, record.injEq]
      constructor
      · intro found
        split at found
        · next count =>
            cases found
            exact ⟨rfl, count⟩
        · cases found
      · rintro ⟨rfl, count⟩
        exact if_pos count
  | forget connection => simp [accepted?]
  | reset => simp [accepted?]

theorem mem_standing_cons {discards : Observation → Operation → Bool} {operation : Operation}
    {later : List Operation} {observation : Observation} :
    observation ∈ standing discards (operation :: later) ↔
      operation.accepted? = some observation ∧ later.any (discards observation) = false ∨
        observation ∈ standing discards later := by
  cases accepted : operation.accepted? with
  | none => simp [standing, accepted]
  | some recorded =>
      simp only [standing, accepted, Option.some.injEq]
      cases discarded : later.any (discards recorded) with
      | true =>
          rw [if_pos rfl]
          refine ⟨Or.inr, ?_⟩
          rintro (⟨rfl, kept⟩ | stands)
          · exact absurd (discarded.symm.trans kept) Bool.noConfusion
          · exact stands
      | false =>
          rw [if_neg Bool.false_ne_true, List.mem_cons]
          refine or_congr_left ⟨?_, fun found => found.1.symm⟩
          rintro rfl
          exact ⟨rfl, discarded⟩

/-- A record stands if it is accepted and no later operation discards it. -/
theorem mem_standing_iff {discards : Observation → Operation → Bool} {history : List Operation}
    {observation : Observation} :
    observation ∈ standing discards history ↔
      ∃ earlier later, history = earlier ++ .record observation :: later ∧
        observation.volume.IsCount ∧ later.any (discards observation) = false := by
  induction history with
  | nil => simp [standing]
  | cons operation rest ih =>
      rw [mem_standing_cons, ih, Operation.accepted?_eq_some_iff]
      constructor
      · rintro (⟨⟨rfl, count⟩, kept⟩ | ⟨earlier, later, rfl, count, kept⟩)
        · exact ⟨[], rest, rfl, count, kept⟩
        · exact ⟨operation :: earlier, later, rfl, count, kept⟩
      · rintro ⟨earlier, later, split, count, kept⟩
        cases earlier with
        | nil =>
            cases split
            exact Or.inl ⟨⟨rfl, count⟩, kept⟩
        | cons first earlier =>
            cases split
            exact Or.inr ⟨earlier, later, rfl, count, kept⟩

/-- What stands after one more operation. -/
theorem standing_concat (discards : Observation → Operation → Bool) (history : List Operation)
    (operation : Operation) :
    standing discards (history ++ [operation]) =
      (standing discards history).filter (fun observation => !discards observation operation) ++
        operation.accepted?.toList := by
  induction history with
  | nil =>
      cases accepted : operation.accepted? <;> simp [standing, accepted]
  | cons first later ih =>
      cases accepted : first.accepted? with
      | none => simp only [List.cons_append, standing, accepted, ih]
      | some observation =>
          simp only [List.cons_append, standing, accepted, List.any_append, List.any_cons,
            List.any_nil, Bool.or_false, ih]
          cases later.any (discards observation) <;>
            cases discarded : discards observation operation <;> simp [discarded]

/-- An operation that discards nothing leaves what stands and may add a record. -/
theorem standing_concat_of_keeps {discards : Observation → Operation → Bool}
    {operation : Operation} (keeps : ∀ observation, discards observation operation = false)
    (history : List Operation) :
    standing discards (history ++ [operation]) =
      standing discards history ++ operation.accepted?.toList := by
  rw [standing_concat]
  simp only [keeps, Bool.not_false, List.filter_true]

theorem standing_concat_reset {discards : Observation → Operation → Bool}
    (dropsAll : ∀ observation, discards observation .reset = true) (history : List Operation) :
    standing discards (history ++ [.reset]) = [] := by
  rw [standing_concat]
  simp only [dropsAll, Bool.not_true, List.filter_false, List.nil_append]
  rfl

theorem live_record (history : List Operation) (observation : Observation) :
    live (history ++ [.record observation]) =
      live history ++ (Operation.record observation).accepted?.toList :=
  standing_concat_of_keeps (fun _ => rfl) history

theorem live_forget (history : List Operation) (connection : Connection) :
    live (history ++ [.forget connection]) =
      (live history).filter (·.connection ≠ connection) := by
  rw [live, standing_concat, Operation.accepted?, Option.toList_none, List.append_nil]
  apply List.filter_congr
  intro observation _
  rw [Operation.closes, ← decide_not, decide_eq_decide, ne_comm]

theorem live_reset (history : List Operation) : live (history ++ [.reset]) = [] :=
  standing_concat_reset (fun _ => rfl) history

theorem sinceReset_record (history : List Operation) (observation : Observation) :
    sinceReset (history ++ [.record observation]) =
      sinceReset history ++ (Operation.record observation).accepted?.toList :=
  standing_concat_of_keeps (fun _ => rfl) history

theorem sinceReset_forget (history : List Operation) (connection : Connection) :
    sinceReset (history ++ [.forget connection]) = sinceReset history := by
  rw [sinceReset, standing_concat_of_keeps fun _ => rfl]
  exact List.append_nil _

theorem sinceReset_reset (history : List Operation) : sinceReset (history ++ [.reset]) = [] :=
  standing_concat_reset (fun _ => rfl) history

/-! ## The ledger after a history -/

theorem perform_record_of_isCount {observation : Observation}
    (count : observation.volume.IsCount) (ledger : Ledger) :
    ledger.perform (.record observation) = (ledger.add observation, none) := by
  have notNegative : ¬(observation.volume.up < 0 ∨ observation.volume.down < 0) := by
    rintro (up | down)
    · exact Int.not_lt.2 count.1 up
    · exact Int.not_lt.2 count.2 down
  simp only [perform, record, if_neg notNegative]

theorem perform_record_of_not_isCount {observation : Observation}
    (refused : ¬observation.volume.IsCount) (ledger : Ledger) :
    ledger.perform (.record observation) = (ledger, some .negativeCount) := by
  have negative : observation.volume.up < 0 ∨ observation.volume.down < 0 := by
    rcases Decidable.not_and_iff_or_not.1 refused with up | down
    · exact Or.inl (Int.not_le.1 up)
    · exact Or.inr (Int.not_le.1 down)
  simp only [perform, record, if_pos negative]

theorem volumeOf_append (observations more : List Observation) :
    volumeOf (observations ++ more) = volumeOf observations + volumeOf more := by
  simp [volumeOf]

/-- Another observation is one update of what its connection shows. -/
theorem usesOf_concat (observations : List Observation) (observation : Observation) :
    usesOf (observations ++ [observation]) =
      (usesOf observations).update observation.connection
        ⟨observation.process, observation.interface, Volume.none⟩
        fun use => { use with volume := use.volume + observation.volume } := by
  apply Keyed.grouped_concat
  intro members
  cases members with
  | nil => simp [useOf, volumeOf, Volume.none_eq_zero]
  | cons first rest =>
      rw [if_neg (List.cons_ne_nil first rest)]
      simp only [List.cons_append, useOf]
      rw [← List.cons_append, volumeOf_append]
      simp [volumeOf]

theorem connections_after (history : List Operation) :
    (after history).connections = usesOf (live history) := by
  induction history using List.reverseRecOn with
  | nil => rfl
  | append_singleton history operation ih =>
      rw [after_concat]
      cases operation with
      | record observation =>
          rw [live_record]
          by_cases count : observation.volume.IsCount
          · rw [perform_record_of_isCount count, Operation.accepted?, if_pos count,
              Option.toList_some, usesOf_concat, add, ih]
          · rw [perform_record_of_not_isCount count, Operation.accepted?, if_neg count,
              Option.toList_none, List.append_nil, ih]
      | forget connection =>
          rw [live_forget, usesOf, Keyed.grouped_filter_ne]
          simp only [perform, forget, ih, usesOf]
      | reset =>
          rw [live_reset]
          rfl

/-- The total adds up what was accepted since the last reset, forgotten or not. -/
theorem total_after (history : List Operation) :
    (after history).total = volumeOf (sinceReset history) := by
  induction history using List.reverseRecOn with
  | nil => rfl
  | append_singleton history operation ih =>
      rw [after_concat]
      cases operation with
      | record observation =>
          rw [sinceReset_record]
          by_cases count : observation.volume.IsCount
          · rw [perform_record_of_isCount count, Operation.accepted?, if_pos count,
              Option.toList_some, volumeOf_append, add, ih]
            simp [volumeOf]
          · rw [perform_record_of_not_isCount count, Operation.accepted?, if_neg count,
              Option.toList_none, List.append_nil, ih]
      | forget connection =>
          rw [sinceReset_forget]
          exact ih
      | reset =>
          rw [sinceReset_reset]
          rfl

/-- Joining the entries one by one makes the groups. -/
theorem groupUses_eq_groupsOf {κ : Type} [DecidableEq κ]
    (key : Connection × ConnectionUse → κ) (entries : List (Connection × ConnectionUse)) :
    groupUses key entries = groupsOf key entries := by
  apply Keyed.foldl_update_eq_grouped
  intro members entry
  by_cases none : members = []
  · subst none
    simp [groupOf, GroupUse.join, GroupUse.empty, Volume.none_eq_zero]
  · simp [none, groupOf, GroupUse.join]

theorem snapshot_eq_snapshotOf (history : List Operation) :
    (after history).snapshot = snapshotOf history := by
  rw [snapshot, Snapshot.ofConnections, connections_after, total_after, groupUses_eq_groupsOf,
    groupUses_eq_groupsOf]
  rfl

/-- A connection of the history has an entry if its window is not empty. -/
theorem find?_usesOf_live (history : List Operation) (connection : Connection) :
    (usesOf (live history)).find? connection =
      if window history connection = [] then none
      else some (useOf (window history connection)) := by
  rw [usesOf, Keyed.find?_grouped, window]
  by_cases listed : connection ∈ (live history).map (·.connection)
  · rw [if_pos listed, if_neg fun empty => Keyed.filter_key_eq_nil_iff.1 empty listed]
  · rw [if_neg listed, if_pos (Keyed.filter_key_eq_nil_iff.2 listed)]

/-- What a snapshot shows is what the history calls for.  A connection is listed when one
of its accepted records stands, and shows what its window shows; a refused record
changes nothing. -/
theorem snapshot_after (history : List Operation) :
    (after history).snapshot = snapshotOf history ∧
      (∀ connection,
        (after history).snapshot.connections.find? connection =
          if window history connection = [] then none
          else some (useOf (window history connection))) ∧
      (∀ connection,
        connection ∈ (after history).snapshot.connections.keys ↔
          ∃ earlier observation later, history = earlier ++ .record observation :: later ∧
            observation.volume.IsCount ∧ observation.connection = connection ∧
              later.any (Operation.closes connection) = false) ∧
      (∀ observation : Observation,
        if observation.volume.IsCount then
          ((after history).perform (.record observation)).2 = none
        else
          (after history).perform (.record observation) =
            (after history, some Error.negativeCount)) := by
  refine ⟨snapshot_eq_snapshotOf history, ?_, ?_, ?_⟩
  · intro connection
    rw [snapshot_eq_snapshotOf]
    exact find?_usesOf_live history connection
  · intro connection
    rw [snapshot_eq_snapshotOf, snapshotOf, usesOf, Keyed.keys_grouped, List.mem_eraseDups,
      List.mem_map]
    constructor
    · rintro ⟨observation, stands, rfl⟩
      obtain ⟨earlier, later, split, count, kept⟩ := mem_standing_iff.1 stands
      exact ⟨earlier, observation, later, split, count, rfl, kept⟩
    · rintro ⟨earlier, observation, later, split, count, rfl, kept⟩
      exact ⟨observation, mem_standing_iff.2 ⟨earlier, later, split, count, kept⟩, rfl⟩
  · intro observation
    split
    · next count => rw [perform_record_of_isCount count]
    · next refused => rw [perform_record_of_not_isCount refused]

end TrafficBoard.Ledger
