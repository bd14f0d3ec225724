import TrafficBoard.Proofs.Keyed.Reordered
import TrafficBoard.Proofs.Traffic.Recording
import TrafficBoard.Proofs.Traffic.Views

/-!
# Writers that take turns

Several writers record observations into one ledger.  Each record is one step, so the
ledger sees some interleaving of what the writers record.  If the records of a
connection agree on its owner, the interleaving is seen in the order of the entries
only: no bytes are lost, and none go to another connection.
-/

namespace TrafficBoard

/-- The orders in which writers, each with a list of its own, can take their turns. -/
inductive Interleaving {α : Type} : List (List α) → List α → Prop where
  | done {writers : List (List α)} (idle : writers.flatten = []) : Interleaving writers []
  | turn {before after : List (List α)} {item : α} {rest order : List α}
      (others : Interleaving (before ++ rest :: after) order) :
      Interleaving (before ++ (item :: rest) :: after) (item :: order)

/-- An interleaving holds what the writers hold. -/
theorem Interleaving.perm {α : Type} {writers : List (List α)} {order : List α}
    (interleaving : Interleaving writers order) : order.Perm writers.flatten := by
  induction interleaving with
  | done idle => rw [idle]
  | @turn before after item rest order others ih =>
      rw [List.flatten_append, List.flatten_cons] at ih ⊢
      exact (ih.cons item).trans List.perm_middle.symm

/-- Two snapshots show the same entries and the same total; only the order of the
entries may differ. -/
structure Snapshot.Agrees (snapshot other : Snapshot) : Prop where
  connections : snapshot.connections.entries.Perm other.connections.entries
  processes : snapshot.processes.entries.Perm other.processes.entries
  remotes : snapshot.remotes.entries.Perm other.remotes.entries
  total : snapshot.total = other.total

/-- The comparison of snapshots decides whether they agree. -/
theorem Snapshot.same_iff {snapshot other : Snapshot} :
    snapshot.same other = true ↔ snapshot.Agrees other := by
  simp only [same, Bool.and_eq_true, Keyed.sameEntries_iff, decide_eq_true_iff]
  constructor
  · rintro ⟨⟨⟨connections, processes⟩, remotes⟩, total⟩
    exact ⟨connections, processes, remotes, total⟩
  · rintro ⟨connections, processes, remotes, total⟩
    exact ⟨⟨⟨connections, processes⟩, remotes⟩, total⟩

namespace Ledger

/-! ## Snapshots of reordered ledgers -/

theorem groupOf_perm {first second : List (Connection × ConnectionUse)}
    (perm : first.Perm second) : groupOf first = groupOf second := by
  rw [groupOf, groupOf, (perm.map _).sum_eq, perm.length_eq]

theorem groupUses_perm {κ : Type} [DecidableEq κ] (key : Connection × ConnectionUse → κ)
    {entries others : List (Connection × ConnectionUse)} (perm : entries.Perm others) :
    (groupUses key entries).entries.Perm (groupUses key others).entries := by
  rw [groupUses_eq_groupsOf, groupUses_eq_groupsOf]
  exact Keyed.grouped_perm (fun _ _ reordered => groupOf_perm reordered) perm

/-- Ledgers with the same entries and totals have snapshots that agree. -/
theorem agrees_snapshot {ledger other : Ledger}
    (sameEntries : ledger.connections.entries.Perm other.connections.entries)
    (sameTotal : ledger.total = other.total) : ledger.snapshot.Agrees other.snapshot where
  connections := sameEntries
  processes := groupUses_perm _ sameEntries
  remotes := groupUses_perm _ sameEntries
  total := sameTotal

/-! ## Records in another order -/

/-- The observations of each connection name one process and one interface. -/
def HasOneOwnerEach (observations : List Observation) : Prop :=
  ∀ one ∈ observations, ∀ other ∈ observations, one.connection = other.connection →
    one.process = other.process ∧ one.interface = other.interface
  deriving Decidable

theorem volumeOf_perm {first second : List Observation} (perm : first.Perm second) :
    volumeOf first = volumeOf second :=
  (perm.map _).sum_eq

/-- The observations of one connection may be added in any order. -/
theorem useWith_perm (before : Option ConnectionUse) {own reordered : List Observation}
    {connection : Connection} (owned : ∀ observation ∈ own, observation.connection = connection)
    (owner : HasOneOwnerEach own) (perm : own.Perm reordered) :
    useWith before own = useWith before reordered := by
  have sameVolume := volumeOf_perm perm
  cases before with
  | some use => rw [useWith, useWith, sameVolume]
  | none =>
      cases own with
      | nil => rw [perm.symm.eq_nil]
      | cons one rest =>
          cases reordered with
          | nil => exact absurd perm.eq_nil (List.cons_ne_nil one rest)
          | cons other others =>
              -- whichever observation comes first, it names the same owner
              have member : other ∈ one :: rest := perm.mem_iff.2 List.mem_cons_self
              have sameConnection : one.connection = other.connection := by
                rw [owned one List.mem_cons_self, owned other member]
              have names := owner one List.mem_cons_self other member sameConnection
              simp only [useWith, useOf, names.1, names.2, sameVolume]

theorem entries_addAll_perm {ledger other : Ledger} {first second : List Observation}
    (sameEntries : ledger.connections.entries.Perm other.connections.entries)
    (owner : HasOneOwnerEach first) (perm : first.Perm second) :
    (ledger.addAll first).connections.entries.Perm
      (other.addAll second).connections.entries := by
  rw [Keyed.entries_perm_iff]
  intro connection
  rw [find?_addAll, find?_addAll, Keyed.entries_perm_iff.1 sameEntries connection]
  have owned : ∀ observation ∈ first.filter (·.connection = connection),
      observation.connection = connection :=
    fun observation member => of_decide_eq_true (List.mem_filter.1 member).2
  apply useWith_perm _ owned
  · intro one oneMember another anotherMember
    exact owner one (List.mem_filter.1 oneMember).1 another (List.mem_filter.1 anotherMember).1
  · exact perm.filter _

/-! ## What is held afterwards -/

theorem held_addAll (ledger : Ledger) (observations : List Observation)
    (connection : Connection) :
    (ledger.addAll observations).held connection =
      ledger.held connection + volumeOf (observations.filter (·.connection = connection)) := by
  rw [held, held, find?_addAll]
  cases ledger.connections.find? connection with
  | some use => rfl
  | none =>
      cases observations.filter (·.connection = connection) with
      | nil => rfl
      | cons first rest => exact (zero_add _).symm

/-- A connection that was recorded shows the owner that its records name, unless it
showed another one before. -/
theorem owner_addAll {ledger : Ledger} {observations : List Observation}
    (owner : HasOneOwnerEach observations) {observation : Observation}
    (member : observation ∈ observations)
    (known : ∀ use ∈ ledger.connections.find? observation.connection,
      use.process = observation.process ∧ use.interface = observation.interface) :
    ∃ use, (ledger.addAll observations).connections.find? observation.connection = some use ∧
      use.process = observation.process ∧ use.interface = observation.interface := by
  rw [find?_addAll]
  cases before : ledger.connections.find? observation.connection with
  | some use => exact ⟨_, rfl, known use before⟩
  | none =>
      cases own : observations.filter (·.connection = observation.connection) with
      | nil => exact absurd (List.mem_filter.2 ⟨member, decide_eq_true rfl⟩) (own ▸ List.not_mem_nil)
      | cons first rest =>
          have firstOwn : first ∈ observations.filter
              (·.connection = observation.connection) := own ▸ List.mem_cons_self
          obtain ⟨firstMember, same⟩ := List.mem_filter.1 firstOwn
          exact ⟨_, rfl, owner first firstMember observation member (of_decide_eq_true same)⟩

/-- Writers whose records are counts and agree on the owner of each connection may take
their turns in any order, and their records may be reordered in any way: every record is
accepted, the snapshots agree, all bytes are there, each with its own connection, and
the owners are those that the records name. -/
theorem interleavings_agree {ledger other : Ledger} (writers : List (List Observation))
    (sameEntries : ledger.connections.entries.Perm other.connections.entries)
    (sameTotal : ledger.total = other.total)
    (counts : ∀ observation ∈ writers.flatten, observation.volume.IsCount)
    (owner : HasOneOwnerEach writers.flatten)
    (known : ∀ observation ∈ writers.flatten,
      ∀ use ∈ ledger.connections.find? observation.connection,
        use.process = observation.process ∧ use.interface = observation.interface) :
    (∀ order, Interleaving writers order → order.Perm writers.flatten) ∧
    ∀ first second : List Observation,
      first.Perm writers.flatten → second.Perm writers.flatten →
      ∃ left right : Ledger, ledger.recordAll first = .ok left ∧
        other.recordAll second = .ok right ∧
        left.snapshot.Agrees right.snapshot ∧
        left.total = ledger.total + volumeOf writers.flatten ∧
        (∀ connection, left.held connection = ledger.held connection +
          volumeOf (writers.flatten.filter (·.connection = connection))) ∧
        ∀ observation ∈ writers.flatten, ∃ use,
          left.connections.find? observation.connection = some use ∧
            use.process = observation.process ∧ use.interface = observation.interface := by
  refine ⟨fun order interleaving => interleaving.perm, ?_⟩
  intro first second firstPerm secondPerm
  have firstOwner : HasOneOwnerEach first := by
    intro one oneMember another anotherMember
    exact owner one (firstPerm.mem_iff.1 oneMember) another (firstPerm.mem_iff.1 anotherMember)
  refine ⟨ledger.addAll first, other.addAll second, ?_, ?_, ?_, ?_, ?_, ?_⟩
  · exact recordAll_of_isCount (fun _ member => counts _ (firstPerm.mem_iff.1 member)) ledger
  · exact recordAll_of_isCount (fun _ member => counts _ (secondPerm.mem_iff.1 member)) other
  · have reordered := firstPerm.trans secondPerm.symm
    apply agrees_snapshot (entries_addAll_perm sameEntries firstOwner reordered)
    rw [total_addAll, total_addAll, sameTotal, volumeOf_perm reordered]
  · rw [total_addAll, volumeOf_perm firstPerm]
  · intro connection
    rw [held_addAll, volumeOf_perm (firstPerm.filter _)]
  · intro observation member
    exact owner_addAll firstOwner (firstPerm.mem_iff.2 member) (known observation member)

/-- One writer adds to a listed connection behind a new one, the other one adds another new
connection first or last.  The snapshots list the new connections in different orders. -/
theorem interleavings_agree_two_writers :
    let seen := fun (last : UInt8) (up : Int) =>
      (⟨⟨.four 10 0 0 last, 443, .tcp, 50000⟩, "ssh", "eth0", ⟨up, 0⟩⟩ : Observation)
    let writers := [[seen 2 5, seen 1 1], [seen 3 2]]
    let start := empty.add (seen 1 7)
    Interleaving writers [seen 2 5, seen 1 1, seen 3 2] ∧
    Interleaving writers [seen 3 2, seen 2 5, seen 1 1] ∧
    ∃ left right : Ledger,
      start.recordAll [seen 2 5, seen 1 1, seen 3 2] = .ok left ∧
      start.recordAll [seen 3 2, seen 2 5, seen 1 1] = .ok right ∧
      left.snapshot.Agrees right.snapshot ∧
      left.held (seen 1 1).connection = ⟨8, 0⟩ ∧
      left.snapshot.connections.keys ≠ right.snapshot.connections.keys := by
  intro seen writers start
  have first : Interleaving writers [seen 2 5, seen 1 1, seen 3 2] :=
    @Interleaving.turn _ [] [[seen 3 2]] _ _ _
      (@Interleaving.turn _ [] [[seen 3 2]] _ _ _ (@Interleaving.turn _ [[]] [] _ _ _ (.done rfl)))
  have second : Interleaving writers [seen 3 2, seen 2 5, seen 1 1] :=
    @Interleaving.turn _ [[seen 2 5, seen 1 1]] [] _ _ _
      (@Interleaving.turn _ [] [[]] _ _ _ (@Interleaving.turn _ [] [[]] _ _ _ (.done rfl)))
  obtain ⟨perm, agree⟩ := interleavings_agree writers (.refl start.connections.entries) rfl
    (by decide) (by decide) (by decide)
  refine ⟨first, second, ?_⟩
  obtain ⟨left, right, leftEnd, rightEnd, same, -, held, -⟩ :=
    agree _ _ (perm _ first) (perm _ second)
  refine ⟨left, right, leftEnd, rightEnd, same, ?_, ?_⟩
  · rw [held]
    decide
  · cases leftEnd
    cases rightEnd
    decide

end Ledger

end TrafficBoard
