import Mathlib.Data.List.Perm.Basic
import Mathlib.Logic.Relation
import TrafficBoard.Proofs.Lookup.Steps

/-!
# Requests and lookups that interleave

Any number of callers ask a resolver for hostnames while workers run the lookups.
A caller claims addresses in one step and then submits them one by one, in any
order.  A worker takes up a submitted lookup and asks the name service; when the
answer has come it settles the outcome in one step and releases the address in
another.  Between two steps of one of them, all others may take steps.

The state keeps what was asked for, claimed, submitted and looked up so far.  The
invariant says where each claimed address is, and what the resolver knows of it.
-/

namespace TrafficBoard.Lookup

/-- A lookup that a worker has taken up. -/
inductive Worker where
  | asking (address : Address)
  | answered (address : Address) (outcome : LookupOutcome)
  | settled (address : Address)

namespace Worker

/-- The address that is looked up. -/
def address : Worker → Address
  | asking address => address
  | answered address _ => address
  | settled address => address

/-- The address that is looked up, as long as the outcome is not recorded. -/
def unsettled? : Worker → Option Address
  | asking address => some address
  | answered address _ => some address
  | settled _ => none

end Worker

/-- A resolver with its callers and workers.  Each caller is given by the addresses that
it has claimed and not yet submitted. -/
structure State where
  resolver : Resolver
  callers : List (List Address)
  queue : List Address
  workers : List Worker
  requested : List Address
  claimed : List Address
  submitted : List Address
  asked : List Address

namespace State

/-- Nothing has been asked for. -/
def start (enabled : Bool) : State := ⟨.start enabled, [], [], [], [], [], [], []⟩

/-- The claimed addresses that are not released yet. -/
def underWay (state : State) : List Address :=
  state.callers.flatten ++ state.queue ++ state.workers.map Worker.address

/-- The claimed addresses whose outcome is not recorded yet. -/
def unsettled (state : State) : List Address :=
  state.callers.flatten ++ state.queue ++ state.workers.filterMap Worker.unsettled?

/-- Every caller has submitted what it claimed, and every lookup has ended. -/
def IsIdle (state : State) : Prop :=
  state.callers.flatten = [] ∧ state.queue = [] ∧ state.workers = []

end State

/-- One step of a caller or a worker.  Which outcomes a lookup may have is given. -/
inductive Step (possible : Address → LookupOutcome → Prop) : State → State → Prop where
  /-- A new caller claims addresses, and will submit them in the order of `todo`. -/
  | claim {state : State} (addresses todo : List Address)
      (order : todo.Perm (state.resolver.claim addresses).1) :
      Step possible state
        { state with
          resolver := (state.resolver.claim addresses).2
          callers := todo :: state.callers
          requested := state.requested ++ addresses
          claimed := state.claimed ++ todo }
  /-- A caller submits the next of its addresses. -/
  | submit {state : State} {before after : List (List Address)} {address : Address}
      {rest : List Address} (caller : state.callers = before ++ (address :: rest) :: after) :
      Step possible state
        { state with
          callers := before ++ rest :: after
          queue := state.queue ++ [address]
          submitted := state.submitted ++ [address] }
  /-- A worker takes up any of the submitted lookups and asks the name service. -/
  | ask {state : State} {before after : List Address} {address : Address}
      (waiting : state.queue = before ++ address :: after) :
      Step possible state
        { state with
          queue := before ++ after
          workers := state.workers ++ [.asking address]
          asked := state.asked ++ [address] }
  /-- The answer has come. -/
  | answer {state : State} {before after : List Worker} {address : Address}
      {outcome : LookupOutcome} (worker : state.workers = before ++ .asking address :: after)
      (may : possible address outcome) :
      Step possible state { state with workers := before ++ .answered address outcome :: after }
  /-- A worker settles the outcome. -/
  | settle {state : State} {before after : List Worker} {address : Address}
      {outcome : LookupOutcome}
      (worker : state.workers = before ++ .answered address outcome :: after) :
      Step possible state
        { state with
          resolver := state.resolver.settle address outcome
          workers := before ++ .settled address :: after }
  /-- A worker releases its address and ends. -/
  | release {state : State} {before after : List Worker} {address : Address}
      (worker : state.workers = before ++ .settled address :: after) :
      Step possible state
        { state with
          resolver := state.resolver.release address
          workers := before ++ after }

/-- Any number of steps of callers and workers. -/
abbrev Steps (possible : Address → LookupOutcome → Prop) : State → State → Prop :=
  Relation.ReflTransGen (Step possible)

/-- The other workers are there when one of them is left out. -/
theorem mem_of_mem_rest {before after : List Worker} {one other : Worker}
    (member : other ∈ before ++ after) : other ∈ before ++ one :: after :=
  List.perm_middle.mem_iff.2 (List.mem_cons_of_mem one member)

/-- The other workers are there when one of them has gone on. -/
theorem eq_or_mem_of_mem_replaced {before after : List Worker} {old new other : Worker}
    (member : other ∈ before ++ new :: after) : other = new ∨ other ∈ before ++ old :: after :=
  (List.mem_cons.1 (List.perm_middle.mem_iff.1 member)).imp_right mem_of_mem_rest

/-! ## The invariant -/

/-- Where the claimed addresses are, and what the resolver knows of them. -/
structure Consistent (state : State) : Prop where
  claimed_nodup : state.claimed.Nodup
  claimed_perm : state.claimed.Perm (state.callers.flatten ++ state.submitted)
  submitted_perm : state.submitted.Perm (state.queue ++ state.asked)
  pending_perm : state.resolver.pending.Perm state.underWay
  pending_nodup : state.resolver.pending.Nodup
  claimed_iff : ∀ address, address ∈ state.claimed ↔
    state.resolver.Recorded address ∨ address ∈ state.resolver.pending
  cached_not_failed : ∀ address ∈ state.resolver.cache.keys, address ∉ state.resolver.failed
  unsettled_not_recorded : ∀ address ∈ state.unsettled, ¬state.resolver.Recorded address
  settled_recorded : ∀ address, .settled address ∈ state.workers →
    state.resolver.Recorded address

variable {possible : Address → LookupOutcome → Prop}

namespace Consistent

variable {state : State}

theorem start (enabled : Bool) : Consistent (.start enabled) where
  claimed_nodup := List.nodup_nil
  claimed_perm := .refl _
  submitted_perm := .refl _
  pending_perm := .refl _
  pending_nodup := List.nodup_nil
  claimed_iff address := by
    simp [State.start, Resolver.start, Resolver.Recorded]
  cached_not_failed address cached := by
    simp [State.start, Resolver.start] at cached
  unsettled_not_recorded address member := by
    simp [State.start, State.unsettled] at member
  settled_recorded address member := by
    simp [State.start] at member

/-- The addresses without a recorded outcome are under way, in the same order. -/
theorem unsettled_sublist (state : State) : state.unsettled.Sublist state.underWay := by
  apply List.Sublist.append_left
  induction state.workers with
  | nil => exact .slnil
  | cons worker rest ih =>
      cases worker with
      | asking address => exact ih.cons_cons address
      | answered address outcome => exact ih.cons_cons address
      | settled address => exact ih.cons address

theorem underWay_nodup (consistent : Consistent state) : state.underWay.Nodup :=
  consistent.pending_perm.nodup_iff.1 consistent.pending_nodup

/-- An address without a recorded outcome is pending. -/
theorem pending_of_unsettled (consistent : Consistent state) {address : Address}
    (member : address ∈ state.unsettled) : address ∈ state.resolver.pending :=
  consistent.pending_perm.mem_iff.2 ((unsettled_sublist state).subset member)

theorem submitted_nodup (consistent : Consistent state) : state.submitted.Nodup :=
  (consistent.claimed_perm.nodup_iff.1 consistent.claimed_nodup).of_append_right

theorem asked_nodup (consistent : Consistent state) : state.asked.Nodup :=
  (consistent.submitted_perm.nodup_iff.1 consistent.submitted_nodup).of_append_right

theorem queue_nodup (consistent : Consistent state) : state.queue.Nodup :=
  (consistent.submitted_perm.nodup_iff.1 consistent.submitted_nodup).of_append_left

/-! ## Each step keeps the invariant -/

theorem claim (consistent : Consistent state) (addresses todo : List Address)
    (order : todo.Perm (state.resolver.claim addresses).1) :
    Consistent
      { state with
        resolver := (state.resolver.claim addresses).2
        callers := todo :: state.callers
        requested := state.requested ++ addresses
        claimed := state.claimed ++ todo } := by
  have unknown : ∀ address ∈ todo,
      ¬state.resolver.Recorded address ∧ address ∉ state.resolver.pending := by
    intro address member
    exact (Resolver.mem_claim.1 (order.mem_iff.1 member)).2.2
  have todoNodup : todo.Nodup := order.nodup_iff.2 (Resolver.nodup_claim ..)
  rw [Resolver.claim_snd]
  constructor
  · -- what is known already is not claimed again
    refine List.nodup_append.2 ⟨consistent.claimed_nodup, todoNodup, ?_⟩
    rintro old claimed new member rfl
    rcases unknown old member with ⟨notRecorded, notPending⟩
    rcases (consistent.claimed_iff old).1 claimed with recorded | pending
    · exact notRecorded recorded
    · exact notPending pending
  · rw [List.flatten_cons, List.append_assoc]
    exact List.perm_append_comm.trans (consistent.claimed_perm.append_left todo)
  · exact consistent.submitted_perm
  · simp only [State.underWay, List.flatten_cons, List.append_assoc]
    have first := List.perm_append_comm.trans (order.symm.append_right state.resolver.pending)
    refine first.trans (List.Perm.append_left todo ?_)
    simpa only [State.underWay, List.append_assoc] using consistent.pending_perm
  · refine List.nodup_append.2 ⟨consistent.pending_nodup, Resolver.nodup_claim .., ?_⟩
    rintro old pending new member rfl
    exact (unknown old (order.mem_iff.2 member)).2 pending
  · intro address
    simp only [List.mem_append, consistent.claimed_iff address, order.mem_iff]
    exact or_assoc
  · exact consistent.cached_not_failed
  · intro address member
    simp only [State.unsettled, List.flatten_cons, List.append_assoc, List.mem_append] at member
    rcases member with new | old
    · exact (unknown address new).1
    · apply consistent.unsettled_not_recorded
      simpa only [State.unsettled, List.append_assoc, List.mem_append] using old
  · exact consistent.settled_recorded

/-- An address goes from one list to the end of the other, and both hold together what
they held before. -/
theorem handOver_perm {source rest : List Address} {address : Address}
    (given : source.Perm (address :: rest)) (target : List Address) :
    (rest ++ (target ++ [address])).Perm (source ++ target) :=
  calc
    rest ++ (target ++ [address]) = (rest ++ target) ++ [address] := by rw [List.append_assoc]
    List.Perm _ (address :: (rest ++ target)) := List.perm_append_singleton ..
    List.Perm _ (source ++ target) := given.symm.append_right target

theorem submit (consistent : Consistent state) {before after : List (List Address)}
    {address : Address} {rest : List Address}
    (caller : state.callers = before ++ (address :: rest) :: after) :
    Consistent
      { state with
        callers := before ++ rest :: after
        queue := state.queue ++ [address]
        submitted := state.submitted ++ [address] } := by
  have given : state.callers.flatten.Perm (address :: (before ++ rest :: after).flatten) := by
    rw [caller, List.flatten_append, List.flatten_append, List.flatten_cons, List.flatten_cons]
    exact List.perm_middle
  have queued := handOver_perm given state.queue
  constructor
  · exact consistent.claimed_nodup
  · exact consistent.claimed_perm.trans (handOver_perm given _).symm
  · have swapped : (state.queue ++ [address] ++ state.asked).Perm
        (state.queue ++ state.asked ++ [address]) := by
      rw [List.append_assoc, List.append_assoc]
      exact List.perm_append_comm.append_left state.queue
    exact (consistent.submitted_perm.append_right [address]).trans swapped.symm
  · exact consistent.pending_perm.trans (queued.append_right _).symm
  · exact consistent.pending_nodup
  · exact consistent.claimed_iff
  · exact consistent.cached_not_failed
  · intro other member
    exact consistent.unsettled_not_recorded other ((queued.append_right _).mem_iff.1 member)
  · exact consistent.settled_recorded

theorem ask (consistent : Consistent state) {before after : List Address} {address : Address}
    (waiting : state.queue = before ++ address :: after) :
    Consistent
      { state with
        queue := before ++ after
        workers := state.workers ++ [.asking address]
        asked := state.asked ++ [address] } := by
  have given : state.queue.Perm (address :: (before ++ after)) := by
    rw [waiting]
    exact List.perm_middle
  constructor
  · exact consistent.claimed_nodup
  · exact consistent.claimed_perm
  · exact consistent.submitted_perm.trans (handOver_perm given _).symm
  · have moved := (handOver_perm given (state.workers.map Worker.address)).append_left
      state.callers.flatten
    simp only [State.underWay, List.map_append, List.map_cons, List.map_nil, Worker.address,
      List.append_assoc] at moved ⊢
    refine consistent.pending_perm.trans ?_
    simpa only [State.underWay, List.append_assoc] using moved.symm
  · exact consistent.pending_nodup
  · exact consistent.claimed_iff
  · exact consistent.cached_not_failed
  · intro other member
    apply consistent.unsettled_not_recorded
    have moved := (handOver_perm given (state.workers.filterMap Worker.unsettled?)).append_left
      state.callers.flatten
    simp only [State.unsettled, List.filterMap_append, List.append_assoc] at moved member ⊢
    exact moved.mem_iff.1 member
  · intro other member
    apply consistent.settled_recorded
    simpa using member

theorem answer (consistent : Consistent state) {before after : List Worker} {address : Address}
    {outcome : LookupOutcome} (worker : state.workers = before ++ .asking address :: after) :
    Consistent { state with workers := before ++ .answered address outcome :: after } := by
  constructor
  · exact consistent.claimed_nodup
  · exact consistent.claimed_perm
  · exact consistent.submitted_perm
  · have same := consistent.pending_perm
    simp only [State.underWay, worker, List.map_append, List.map_cons] at same ⊢
    exact same
  · exact consistent.pending_nodup
  · exact consistent.claimed_iff
  · exact consistent.cached_not_failed
  · intro other member
    apply consistent.unsettled_not_recorded
    simp only [State.unsettled, worker, List.filterMap_append, List.filterMap_cons] at member ⊢
    exact member
  · intro other settled
    rcases eq_or_mem_of_mem_replaced settled with same | old
    · cases same
    · apply consistent.settled_recorded
      rw [worker]
      exact old

theorem settle (consistent : Consistent state) {before after : List Worker} {address : Address}
    {outcome : LookupOutcome}
    (worker : state.workers = before ++ .answered address outcome :: after) :
    Consistent
      { state with
        resolver := state.resolver.settle address outcome
        workers := before ++ .settled address :: after } := by
  -- the address leaves the unsettled ones, where it stood once
  have given : state.unsettled.Perm (address ::
      (state.callers.flatten ++ state.queue ++
        (before ++ .settled address :: after).filterMap Worker.unsettled?)) := by
    simp only [State.unsettled, worker, List.filterMap_append, List.filterMap_cons,
      Worker.unsettled?]
    rw [← List.append_assoc, ← List.append_assoc]
    exact List.perm_middle
  have distinct := given.nodup_iff.1 ((unsettled_sublist state).nodup consistent.underWay_nodup)
  have member : address ∈ state.unsettled := given.mem_iff.2 List.mem_cons_self
  have notRecorded := consistent.unsettled_not_recorded address member
  have pending := consistent.pending_of_unsettled member
  constructor
  · exact consistent.claimed_nodup
  · exact consistent.claimed_perm
  · exact consistent.submitted_perm
  · have same := consistent.pending_perm
    simp only [State.underWay, worker, List.map_append, List.map_cons] at same ⊢
    rw [Resolver.pending_settle]
    exact same
  · rw [Resolver.pending_settle]
    exact consistent.pending_nodup
  · intro other
    rw [consistent.claimed_iff other, Resolver.pending_settle, Resolver.recorded_settle, or_assoc]
    refine (or_iff_right_of_imp ?_).symm
    rintro rfl
    exact .inr pending
  · intro other cached failed
    have kept := consistent.cached_not_failed other
    rw [← Keyed.find?_isSome_iff, Resolver.find?_settle] at cached
    rw [Resolver.mem_failed_settle] at failed
    by_cases same : other = address
    · -- an address that is settled was not recorded before
      subst same
      rcases failed with ⟨-, none⟩ | old
      · rw [if_neg fun found => found.2 none, Keyed.find?_isSome_iff] at cached
        exact notRecorded (.inl cached)
      · exact notRecorded (.inr old)
    · rw [if_neg fun found => same found.1.symm, Keyed.find?_isSome_iff] at cached
      exact kept cached (failed.resolve_left fun found => same found.1)
  · intro other remaining recorded
    rcases Resolver.recorded_settle.1 recorded with same | old
    · subst same
      exact (List.nodup_cons.1 distinct).1 remaining
    · exact consistent.unsettled_not_recorded other
        (given.mem_iff.2 (List.mem_cons_of_mem address remaining)) old
  · intro other settled
    rw [Resolver.recorded_settle]
    rcases eq_or_mem_of_mem_replaced settled with same | old
    · exact .inl (Worker.settled.inj same)
    · right
      apply consistent.settled_recorded
      rw [worker]
      exact old

/-- Among distinct addresses, one is dropped where it stands. -/
theorem filter_ne_middle {before after : List Address} {address : Address}
    (distinct : (before ++ address :: after).Nodup) :
    (before ++ address :: after).filter (· ≠ address) = before ++ after := by
  have absent := (List.nodup_cons.1 (List.nodup_middle.1 distinct)).1
  rw [List.filter_append, List.filter_cons_of_neg (by simp), ← List.filter_append,
    List.filter_eq_self]
  intro other member
  exact decide_eq_true fun same => absent (same ▸ member)

theorem release (consistent : Consistent state) {before after : List Worker} {address : Address}
    (worker : state.workers = before ++ .settled address :: after) :
    Consistent
      { state with
        resolver := state.resolver.release address
        workers := before ++ after } := by
  have given : state.underWay.Perm (address ::
      (state.callers.flatten ++ state.queue ++ (before ++ after).map Worker.address)) := by
    simp only [State.underWay, worker, List.map_append, List.map_cons, Worker.address]
    rw [← List.append_assoc, ← List.append_assoc]
    exact List.perm_middle
  have distinct := given.nodup_iff.1 consistent.underWay_nodup
  have recorded : state.resolver.Recorded address := by
    apply consistent.settled_recorded
    rw [worker]
    exact List.mem_append_right _ List.mem_cons_self
  constructor
  · exact consistent.claimed_nodup
  · exact consistent.claimed_perm
  · exact consistent.submitted_perm
  · have kept := (consistent.pending_perm.trans given).filter (· ≠ address)
    exact kept.trans (.of_eq (@filter_ne_middle [] _ address distinct))
  · exact consistent.pending_nodup.filter _
  · intro other
    rw [consistent.claimed_iff other, Resolver.recorded_release, Resolver.mem_pending_release]
    by_cases same : other = address
    · subst same
      exact ⟨fun _ => .inl recorded, fun _ => .inl recorded⟩
    · rw [and_iff_left same]
  · exact consistent.cached_not_failed
  · intro other member
    apply consistent.unsettled_not_recorded
    simpa only [State.unsettled, worker, List.filterMap_append, List.filterMap_cons,
      Worker.unsettled?] using member
  · intro other settled
    apply consistent.settled_recorded
    rw [worker]
    exact mem_of_mem_rest settled

/-- Whoever takes the next step, the invariant is kept. -/
theorem step {next : State} (consistent : Consistent state)
    (step : Step possible state next) : Consistent next := by
  cases step with
  | claim addresses todo order => exact consistent.claim addresses todo order
  | submit caller => exact consistent.submit caller
  | ask waiting => exact consistent.ask waiting
  | answer worker may => exact consistent.answer worker
  | settle worker => exact consistent.settle worker
  | release worker => exact consistent.release worker

theorem steps {later : State} (consistent : Consistent state)
    (run : Steps possible state later) : Consistent later := by
  induction run with
  | refl => exact consistent
  | tail _ step ih => exact ih.step step

end Consistent

/-- Every state that can be reached is consistent. -/
theorem consistent_of_steps {enabled : Bool} {state : State}
    (run : Steps possible (.start enabled) state) : Consistent state :=
  (Consistent.start enabled).steps run

theorem enabled_step {state next : State} (step : Step possible state next) :
    next.resolver.enabled = state.resolver.enabled := by
  cases step with
  | claim addresses todo order => rw [Resolver.claim_snd]
  | settle worker => exact Resolver.enabled_settle ..
  | submit | ask | answer | release => rfl

theorem enabled_steps {enabled : Bool} {state : State}
    (run : Steps possible (.start enabled) state) : state.resolver.enabled = enabled := by
  induction run with
  | refl => rfl
  | tail _ step ih => exact (enabled_step step).trans ih

/-- A lookup that nothing comes between. -/
theorem steps_lookUp {state : State} {before after : List Address} {address : Address}
    {outcome : LookupOutcome} (idle : state.workers = [])
    (waiting : state.queue = before ++ address :: after) (may : possible address outcome) :
    Steps possible state
      { state with
        resolver := (state.resolver.settle address outcome).release address
        queue := before ++ after
        workers := []
        asked := state.asked ++ [address] } := by
  rcases state with ⟨resolver, callers, queue, workers, requested, claimed, submitted, asked⟩
  cases idle
  have taken := Relation.ReflTransGen.single (@Step.ask possible _ _ _ _ waiting)
  have answered := taken.tail (@Step.answer _ _ [] [] address outcome rfl may)
  have settled := answered.tail (@Step.settle _ _ [] [] address outcome rfl)
  exact settled.tail (@Step.release _ _ [] [] address rfl)

end TrafficBoard.Lookup
