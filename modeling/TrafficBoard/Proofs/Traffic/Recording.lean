import TrafficBoard.Proofs.Traffic.History

/-!
# Recording several observations

Observations that are all counts are recorded without a refusal.  A connection then
shows what it showed before and, added to it, the bytes of its own observations;
where it showed nothing, the first of them names its owner.
-/

namespace TrafficBoard.Ledger

/-- The ledger after observations are recorded one by one, or why one is refused. -/
def recordAll (ledger : Ledger) (observations : List Observation) : Except Error Ledger :=
  observations.foldlM record ledger

/-- The ledger with several observations added. -/
def addAll (ledger : Ledger) (observations : List Observation) : Ledger :=
  observations.foldl add ledger

theorem record_of_isCount {observation : Observation} (count : observation.volume.IsCount)
    (ledger : Ledger) : ledger.record observation = .ok (ledger.add observation) := by
  have notNegative : ¬(observation.volume.up < 0 ∨ observation.volume.down < 0) := by
    rintro (up | down)
    · exact Int.not_lt.2 count.1 up
    · exact Int.not_lt.2 count.2 down
  rw [record, if_neg notNegative]

/-- Counts are never refused. -/
theorem recordAll_of_isCount {observations : List Observation}
    (counts : ∀ observation ∈ observations, observation.volume.IsCount) (ledger : Ledger) :
    ledger.recordAll observations = .ok (ledger.addAll observations) := by
  induction observations generalizing ledger with
  | nil => rfl
  | cons observation rest ih =>
      rw [recordAll, List.foldlM_cons, record_of_isCount (counts observation List.mem_cons_self)]
      exact ih (fun other member => counts other (List.mem_cons_of_mem _ member)) _

/-- What a connection shows when observations of its own are added to what it showed. -/
def useWith (before : Option ConnectionUse) (own : List Observation) : Option ConnectionUse :=
  match before, own with
  | some use, own => some { use with volume := use.volume + volumeOf own }
  | none, [] => none
  | none, first :: rest => some (useOf (first :: rest))

theorem volumeOf_cons (observation : Observation) (rest : List Observation) :
    volumeOf (observation :: rest) = observation.volume + volumeOf rest :=
  List.sum_cons

/-- One observation more in front is one update before the others. -/
theorem useWith_cons (before : Option ConnectionUse) (observation : Observation)
    (rest : List Observation) :
    useWith before (observation :: rest) =
      useWith
        (some
          { before.getD ⟨observation.process, observation.interface, Volume.none⟩ with
            volume := (before.getD ⟨observation.process, observation.interface,
              Volume.none⟩).volume + observation.volume })
        rest := by
  cases before with
  | none => simp [useWith, useOf, volumeOf_cons, Volume.none_eq_zero]
  | some use => simp [useWith, volumeOf_cons, add_assoc]

theorem find?_addAll (ledger : Ledger) (observations : List Observation)
    (connection : Connection) :
    (ledger.addAll observations).connections.find? connection =
      useWith (ledger.connections.find? connection)
        (observations.filter (·.connection = connection)) := by
  induction observations generalizing ledger with
  | nil =>
      change ledger.connections.find? connection = _
      cases ledger.connections.find? connection with
      | none => rfl
      | some use => simp [useWith, volumeOf]
  | cons observation rest ih =>
      change ((ledger.add observation).addAll rest).connections.find? connection = _
      rw [ih, add, Keyed.find?_update]
      by_cases own : observation.connection = connection
      · subst own
        rw [if_pos rfl, List.filter_cons, if_pos (decide_eq_true rfl), useWith_cons]
      · rw [if_neg own, List.filter_cons, if_neg fun same => own (of_decide_eq_true same)]

theorem total_addAll (ledger : Ledger) (observations : List Observation) :
    (ledger.addAll observations).total = ledger.total + volumeOf observations := by
  induction observations generalizing ledger with
  | nil => simp [addAll, volumeOf]
  | cons observation rest ih =>
      change ((ledger.add observation).addAll rest).total = _
      rw [ih, add, volumeOf_cons, add_assoc]

/-- A ledger that starts empty lists different connections as they are observed. -/
theorem entries_addAll_empty {observations : List Observation}
    (distinct : (observations.map (·.connection)).Nodup) :
    (empty.addAll observations).connections.entries =
      observations.map fun observation =>
        (observation.connection,
          ⟨observation.process, observation.interface, observation.volume⟩) := by
  induction observations using List.reverseRecOn with
  | nil => rfl
  | append_singleton observations observation ih =>
      rw [List.map_append, List.map_singleton] at distinct
      have before := ih distinct.of_append_left
      have absent : observation.connection ∉ (empty.addAll observations).connections.keys := by
        rw [Keyed.keys, before, List.map_map]
        intro member
        exact List.disjoint_of_nodup_append distinct member List.mem_cons_self
      rw [addAll, List.foldl_concat, List.map_append, ← before, add,
        ← addAll, Keyed.entries_update_of_notMem absent]
      simp [Volume.none_eq_zero]

end TrafficBoard.Ledger
