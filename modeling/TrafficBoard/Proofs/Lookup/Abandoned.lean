import TrafficBoard.Proofs.Lookup.Kept

/-!
# Lookups that are given up

An executor can refuse a lookup, which ends the request that submits it, and a shutdown
cancels the lookups that wait.  In both cases the addresses have been claimed, and only a
lookup that runs to its end releases one.  The addresses stay pending, though nobody will
look them up, and for the same reason they are not claimed again.

Refusals and shutdowns are further steps beside those of callers and workers.  For the
resolver a refused address looks like that of a caller who has stopped, and a cancelled
lookup like one that no worker takes up.  Both may happen without any refusal or shutdown,
so that the invariant of callers and workers carries over.
-/

namespace TrafficBoard

namespace Lookup

/-- It does not matter how the claimed addresses are spread over the callers. -/
theorem Consistent.regroup {state : State} (consistent : Consistent state)
    {callers : List (List Address)} (same : callers.flatten.Perm state.callers.flatten) :
    Consistent { state with callers := callers } where
  claimed_nodup := consistent.claimed_nodup
  claimed_perm := consistent.claimed_perm.trans (same.symm.append_right state.submitted)
  submitted_perm := consistent.submitted_perm
  pending_perm := by
    apply consistent.pending_perm.trans
    exact (same.symm.append_right state.queue).append_right (state.workers.map Worker.address)
  pending_nodup := consistent.pending_nodup
  claimed_iff := consistent.claimed_iff
  cached_not_failed := consistent.cached_not_failed
  unsettled_not_recorded := by
    intro address member
    apply consistent.unsettled_not_recorded
    exact ((same.append_right state.queue).append_right
      (state.workers.filterMap Worker.unsettled?)).mem_iff.1 member
  settled_recorded := consistent.settled_recorded

/-- An address that waits to be submitted or to be taken up has not been asked for. -/
theorem Consistent.not_asked_of_waiting {state : State} (consistent : Consistent state)
    {address : Address} (waiting : address ∈ state.callers.flatten ++ state.queue) :
    address ∉ state.asked := by
  have parts := consistent.claimed_perm.trans
    (consistent.submitted_perm.append_left state.callers.flatten)
  rw [← List.append_assoc] at parts
  have distinct := parts.nodup_iff.1 consistent.claimed_nodup
  intro asked
  exact (List.nodup_append.1 distinct).2.2 address waiting address asked rfl

/-- A resolver with its callers and workers, and the claimed addresses that were given up:
those that were refused or stood behind a refused one, and those whose lookup was
cancelled. -/
structure Interrupted where
  state : State
  refused : List Address
  cancelled : List Address

namespace Interrupted

/-- Nothing has been asked for. -/
def start (enabled : Bool) : Interrupted := ⟨.start enabled, [], []⟩

/-- The addresses whose lookup was accepted and has neither ended nor been cancelled. -/
def scheduled (interrupted : Interrupted) : List Address :=
  interrupted.state.queue ++ interrupted.state.workers.map Worker.address

/-- The addresses that were given up. -/
def abandoned (interrupted : Interrupted) : List Address :=
  interrupted.refused ++ interrupted.cancelled

/-- One step of a caller or a worker, a refusal, or a shutdown. -/
inductive Step (possible : Address → LookupOutcome → Prop) : Interrupted → Interrupted → Prop where
  /-- A caller or a worker goes on. -/
  | work {interrupted : Interrupted} {next : State}
      (step : Lookup.Step possible interrupted.state next) :
      Step possible interrupted { interrupted with state := next }
  /-- The next address of a caller is refused.  The caller gives up those behind it too. -/
  | refuse {interrupted : Interrupted} {before after : List (List Address)} {address : Address}
      {rest : List Address}
      (caller : interrupted.state.callers = before ++ (address :: rest) :: after) :
      Step possible interrupted
        { interrupted with
          state := { interrupted.state with callers := before ++ after }
          refused := interrupted.refused ++ address :: rest }
  /-- A shutdown cancels the lookups that wait. -/
  | shutdown {interrupted : Interrupted} :
      Step possible interrupted
        { interrupted with
          state := { interrupted.state with queue := [] }
          cancelled := interrupted.cancelled ++ interrupted.state.queue }

/-- Any number of such steps. -/
abbrev Steps (possible : Address → LookupOutcome → Prop) : Interrupted → Interrupted → Prop :=
  Relation.ReflTransGen (Step possible)

variable {possible : Address → LookupOutcome → Prop} {interrupted next later : Interrupted}

/-- Callers and workers go on, and nothing is given up. -/
theorem steps_work {state last : State} (run : Lookup.Steps possible state last)
    (refused cancelled : List Address) :
    Steps possible ⟨state, refused, cancelled⟩ ⟨last, refused, cancelled⟩ :=
  Relation.ReflTransGen.lift (fun state : State => Interrupted.mk state refused cancelled)
    (fun _ _ step => .work step) _ _ run

/-! ## Given up, or only held up -/

/-- The state in which nothing is given up: one more caller holds the refused addresses and
does not go on, and the cancelled lookups still wait. -/
def heldUp (interrupted : Interrupted) : State :=
  { interrupted.state with
    callers := interrupted.state.callers ++ [interrupted.refused]
    queue := interrupted.cancelled ++ interrupted.state.queue }

/-- Callers and workers can take the same step beside what is held up. -/
theorem heldUp_work {state next : State} (step : Lookup.Step possible state next)
    (refused cancelled : List Address) :
    Lookup.Step possible (heldUp ⟨state, refused, cancelled⟩)
      (heldUp ⟨next, refused, cancelled⟩) := by
  cases step with
  | claim addresses todo order => exact .claim addresses todo order
  -- the caller that holds the refused addresses stays behind all others
  | @submit before after address rest caller =>
      have among : state.callers ++ [refused] =
          before ++ (address :: rest) :: (after ++ [refused]) := by
        rw [caller, List.append_assoc, List.cons_append]
      have submitted := @Step.submit possible (heldUp ⟨state, refused, cancelled⟩) _ _ _ _ among
      simpa [heldUp] using submitted
  -- and the cancelled lookups stay before all others
  | @ask before after address waiting =>
      have among : cancelled ++ state.queue = (cancelled ++ before) ++ address :: after := by
        rw [waiting, List.append_assoc]
      have asked := @Step.ask possible (heldUp ⟨state, refused, cancelled⟩) _ _ _ among
      simpa [heldUp] using asked
  | answer worker may => exact .answer worker may
  | settle worker => exact .settle worker
  | release worker => exact .release worker

/-- Whatever the next step is, the invariant of callers and workers is kept. -/
theorem consistent_step (consistent : Consistent interrupted.heldUp)
    (step : Step possible interrupted next) : Consistent next.heldUp := by
  cases step with
  | work step => exact consistent.step (heldUp_work step _ _)
  | @refuse before after address rest caller =>
      have moved : (before ++ after ++ [interrupted.refused ++ address :: rest]).flatten.Perm
          (interrupted.state.callers ++ [interrupted.refused]).flatten := by
        simp only [caller, List.flatten_append, List.flatten_cons, List.flatten_nil,
          List.append_nil, List.append_assoc]
        apply List.Perm.append_left before.flatten
        rw [← List.append_assoc]
        exact List.perm_append_comm
      exact consistent.regroup moved
  | shutdown =>
      simpa only [heldUp, List.append_nil] using consistent

/-- The pending addresses are those that callers still hold, the scheduled ones and the
abandoned ones. -/
theorem pending_perm (consistent : Consistent interrupted.heldUp) :
    interrupted.state.resolver.pending.Perm
      (interrupted.state.callers.flatten ++ interrupted.scheduled ++ interrupted.abandoned) := by
  apply consistent.pending_perm.trans
  simp only [State.underWay, heldUp, scheduled, abandoned, List.flatten_append, List.flatten_cons,
    List.flatten_nil, List.append_nil, List.append_assoc]
  apply List.Perm.append_left interrupted.state.callers.flatten
  rw [← List.append_assoc]
  exact List.perm_append_comm.trans (.of_eq (List.append_assoc ..))

theorem consistent_steps (consistent : Consistent interrupted.heldUp)
    (run : Steps possible interrupted later) : Consistent later.heldUp := by
  induction run with
  | refl => exact consistent
  | tail _ step ih => exact consistent_step ih step

theorem consistent_start (enabled : Bool) : Consistent (start enabled).heldUp :=
  @Consistent.regroup _ (.start enabled) [[]] (.refl [])

/-- What is given up is so for good. -/
theorem abandoned_subset_step (step : Step possible interrupted next) :
    interrupted.abandoned ⊆ next.abandoned := by
  intro address member
  cases step with
  | work => exact member
  | refuse | shutdown =>
      simp only [abandoned, List.mem_append] at member ⊢
      tauto

theorem abandoned_subset_steps (run : Steps possible interrupted later) :
    interrupted.abandoned ⊆ later.abandoned := by
  induction run with
  | refl => exact List.Subset.refl _
  | tail _ step ih => exact List.Subset.trans ih (abandoned_subset_step step)

/-- An address counts as pending, though its lookup is not scheduled and has never begun.
Nothing is known of it, and no request claims it again. -/
structure IsStuck (interrupted : Interrupted) (address : Address) : Prop where
  pending : address ∈ interrupted.state.resolver.pending
  not_scheduled : address ∉ interrupted.scheduled
  not_asked : address ∉ interrupted.state.asked
  not_recorded : ¬interrupted.state.resolver.Recorded address
  not_claimed : ∀ addresses, address ∉ (interrupted.state.resolver.claim addresses).1

theorem isStuck_of_abandoned (consistent : Consistent interrupted.heldUp) {address : Address}
    (member : address ∈ interrupted.abandoned) : interrupted.IsStuck address := by
  have parts := pending_perm consistent
  have distinct := parts.nodup_iff.1 consistent.pending_nodup
  have pending := parts.mem_iff.2 (List.mem_append_right _ member)
  have waiting : address ∈ interrupted.heldUp.callers.flatten ++ interrupted.heldUp.queue := by
    simp only [abandoned, List.mem_append] at member
    simp only [heldUp, List.flatten_append, List.flatten_singleton, List.mem_append]
    tauto
  constructor
  · exact pending
  · intro scheduled
    exact (List.nodup_append.1 distinct).2.2 address (List.mem_append_right _ scheduled) address
      member rfl
  · exact consistent.not_asked_of_waiting waiting
  · exact consistent.unsettled_not_recorded address (List.mem_append_left _ waiting)
  · intro addresses claimed
    exact (Resolver.mem_claim.1 claimed).2.2.2 pending

/-- After any interleaving of callers, workers, refusals and shutdowns, the pending addresses
are those that callers have still to submit, those whose lookup is scheduled, and those that
were given up, each once.  When every call has ended, all pending addresses are therefore
scheduled only if no address was ever refused or cancelled.  One that was stays pending
whatever happens later: it is neither looked up nor claimed again. -/
theorem pending_is_scheduled_unless_abandoned {enabled : Bool}
    (run : Steps possible (.start enabled) interrupted) :
    interrupted.state.resolver.pending.Nodup ∧
    interrupted.state.resolver.pending.Perm
      (interrupted.state.callers.flatten ++ interrupted.scheduled ++ interrupted.abandoned) ∧
    (interrupted.state.callers.flatten = [] →
      ((∀ address ∈ interrupted.state.resolver.pending, address ∈ interrupted.scheduled) ↔
        interrupted.abandoned = [])) ∧
    ∀ later, Steps possible interrupted later →
      ∀ address ∈ interrupted.abandoned, later.IsStuck address := by
  have consistent := consistent_steps (consistent_start enabled) run
  have parts := pending_perm consistent
  refine ⟨consistent.pending_nodup, parts, ?_, ?_⟩
  · intro idle
    constructor
    · intro all
      apply List.eq_nil_iff_forall_not_mem.2
      intro address member
      have stuck := isStuck_of_abandoned consistent member
      exact stuck.not_scheduled (all address stuck.pending)
    · intro none address pending
      have member := parts.mem_iff.1 pending
      rw [idle, none, List.nil_append, List.append_nil] at member
      exact member
  · intro later more address member
    exact isStuck_of_abandoned (consistent_steps consistent more)
      (abandoned_subset_steps more member)

/-- Three addresses are claimed together.  The lookup of the first one has begun and that of
the second one waits when the third one is refused; then a shutdown comes. -/
theorem pending_is_scheduled_unless_abandoned_three :
    ∃ interrupted : Interrupted, Steps (fun _ _ => True) (.start true) interrupted ∧
      interrupted.state.resolver.pending = [.four 10 0 0 1, .four 10 0 0 2, .four 10 0 0 3] ∧
      interrupted.scheduled = [.four 10 0 0 1] ∧
      interrupted.abandoned = [.four 10 0 0 3, .four 10 0 0 2] ∧
      ¬(∀ address ∈ interrupted.state.resolver.pending, address ∈ interrupted.scheduled) ∧
      interrupted.IsStuck (.four 10 0 0 2) ∧
      interrupted.IsStuck (.four 10 0 0 3) := by
  have claimed : Steps (fun _ _ => True) (.start true) _ := .single
    (.work (.claim [.four 10 0 0 1, .four 10 0 0 2, .four 10 0 0 3] _ (.refl _)))
  have first := claimed.tail (.work (@Step.submit _ _ [] _ _ _ rfl))
  have second := first.tail (.work (@Step.submit _ _ [] _ _ _ rfl))
  have begun := second.tail (.work (@Step.ask _ _ [] _ _ rfl))
  have refused := begun.tail (@Interrupted.Step.refuse _ _ [] _ _ _ rfl)
  have run := refused.tail .shutdown
  rcases pending_is_scheduled_unless_abandoned run with ⟨-, -, scheduled, stuck⟩
  refine ⟨_, run, by decide, by decide, by decide, ?_, ?_, ?_⟩
  · intro all
    exact absurd ((scheduled rfl).1 all) (by decide)
  · exact stuck _ .refl _ (by decide)
  · exact stuck _ .refl _ (by decide)

end Interrupted

end Lookup

/-! ## Services whose executor refuses lookups or is shut down -/

namespace LookupService

/-- What a lookup service is told when its executor may refuse lookups and be shut down. -/
inductive Call where
  | event (event : Event)
  | requestUntilRefused (accepts : Address → Bool) (addresses : List Address)
  | shutdown

/-- The service after a call. -/
def afterCall (answers : Address → LookupOutcome) (service : LookupService) :
    Call → LookupService
  | .event event => service.handle answers event
  | .requestUntilRefused accepts addresses =>
      (service.requestUntilRefused answers accepts addresses).1
  | .shutdown => service.shutdown.1

/-- The addresses that a call gives up: those of a request from the refused one on, and those
that wait when the executor is shut down. -/
def givenUp (service : LookupService) : Call → List Address
  | .event _ => []
  | .requestUntilRefused accepts addresses =>
      (service.resolver.claim addresses).1.dropWhile accepts
  | .shutdown => if service.ownsExecutor then service.queue else []

/-- The addresses that are given up in the course of some calls. -/
def givenUpDuring (answers : Address → LookupOutcome) : LookupService → List Call → List Address
  | _, [] => []
  | service, call :: rest =>
      service.givenUp call ++ givenUpDuring answers (service.afterCall answers call) rest

end LookupService

namespace Lookup

variable (answers : Address → LookupOutcome) {service : LookupService}
variable {requested : List Address} {interrupted : Interrupted}

/-- A request that is refused is a caller that claims, submits some addresses and is refused
the next one. -/
theorem exists_steps_requestUntilRefused
    (represents : Represents service requested interrupted.state)
    (idle : interrupted.state.callers.flatten = []) (accepts : Address → Bool)
    (addresses : List Address) :
    ∃ later : Interrupted, Interrupted.Steps (AnswersOf answers) interrupted later ∧
      Represents (service.requestUntilRefused answers accepts addresses).1
        (requested ++ addresses) later.state ∧
      later.state.callers.flatten = [] ∧
      later.abandoned.Perm (interrupted.abandoned ++
        service.givenUp (.requestUntilRefused accepts addresses)) := by
  rcases interrupted with ⟨state, refused, cancelled⟩
  obtain ⟨next, claimed, nextRepresents, callers⟩ :=
    exists_steps_claim answers represents addresses
  rw [← @List.takeWhile_append_dropWhile _ accepts (service.resolver.claim addresses).1] at callers
  obtain ⟨last, submitted, lastRepresents, remaining⟩ :=
    exists_steps_submitFirst answers _ nextRepresents callers
  have run := Interrupted.steps_work (claimed.trans submitted) refused cancelled
  rw [LookupService.givenUp]
  cases left : (service.resolver.claim addresses).1.dropWhile accepts with
  | nil =>
      rw [left] at remaining
      refine ⟨_, run, lastRepresents, ?_, ?_⟩
      · rw [remaining]
        exact idle
      · rw [List.append_nil]
        exact .refl _
  | cons address rest =>
      rw [left] at remaining
      have refusal := @Interrupted.Step.refuse (AnswersOf answers) ⟨last, refused, cancelled⟩ []
        state.callers address rest remaining
      refine ⟨_, run.tail refusal, ?_, idle, ?_⟩
      · rcases lastRepresents with ⟨resolver, queue, workers, asked, same⟩
        exact ⟨resolver, queue, workers, asked, same⟩
      · simp only [Interrupted.abandoned, List.append_assoc]
        exact List.perm_append_comm.append_left refused

/-- What a service does on a call, some number of steps do, which give up the same addresses. -/
theorem exists_steps_afterCall (consistent : Consistent interrupted.heldUp)
    (represents : Represents service requested interrupted.state)
    (idle : interrupted.state.callers.flatten = []) (call : LookupService.Call) :
    ∃ (later : Interrupted) (all : List Address),
      Interrupted.Steps (AnswersOf answers) interrupted later ∧
      Represents (service.afterCall answers call) all later.state ∧
      later.state.callers.flatten = [] ∧
      later.abandoned.Perm (interrupted.abandoned ++ service.givenUp call) := by
  cases call with
  | event event =>
      have distinct : service.queue.Nodup :=
        represents.queue ▸ (List.nodup_append.1 consistent.queue_nodup).2.1
      obtain ⟨last, run, lastRepresents, lastIdle⟩ :=
        exists_steps_handle answers represents idle distinct event
      have steps := Interrupted.steps_work run interrupted.refused interrupted.cancelled
      refine ⟨_, _, steps, lastRepresents, lastIdle, ?_⟩
      rw [LookupService.givenUp, List.append_nil]
      exact .refl _
  | requestUntilRefused accepts addresses =>
      obtain ⟨later, run, laterRepresents, rest⟩ :=
        exists_steps_requestUntilRefused answers represents idle accepts addresses
      exact ⟨later, _, run, laterRepresents, rest⟩
  | shutdown =>
      simp only [LookupService.afterCall, LookupService.shutdown, LookupService.givenUp]
      split
      · refine ⟨_, requested, .single .shutdown, ?_, idle, ?_⟩
        · rcases represents with ⟨resolver, queue, workers, asked, same⟩
          exact ⟨resolver, rfl, workers, asked, same⟩
        · rw [← represents.queue, Interrupted.abandoned, ← List.append_assoc]
          exact .refl _
      · refine ⟨interrupted, requested, .refl, represents, idle, ?_⟩
        rw [List.append_nil]

theorem exists_steps_calls (calls : List LookupService.Call)
    (consistent : Consistent interrupted.heldUp)
    (represents : Represents service requested interrupted.state)
    (idle : interrupted.state.callers.flatten = []) :
    ∃ (later : Interrupted) (all : List Address),
      Interrupted.Steps (AnswersOf answers) interrupted later ∧
      Represents (calls.foldl (LookupService.afterCall answers) service) all later.state ∧
      later.state.callers.flatten = [] ∧
      later.abandoned.Perm (interrupted.abandoned ++ service.givenUpDuring answers calls) := by
  induction calls generalizing service requested interrupted with
  | nil =>
      refine ⟨interrupted, requested, .refl, represents, idle, ?_⟩
      rw [LookupService.givenUpDuring, List.append_nil]
  | cons call rest ih =>
      obtain ⟨next, _, first, nextRepresents, nextIdle, givenUp⟩ :=
        exists_steps_afterCall answers consistent represents idle call
      obtain ⟨later, all, more, laterRepresents, laterIdle, rest⟩ :=
        ih (Interrupted.consistent_steps consistent first) nextRepresents nextIdle
      refine ⟨later, all, first.trans more, laterRepresents, laterIdle, ?_⟩
      rw [LookupService.givenUpDuring, ← List.append_assoc]
      exact rest.trans (givenUp.append_right _)

end Lookup

namespace LookupService

/-- After any calls, the pending addresses of a service that began with nothing are those
whose lookup waits and those that were given up on the way. -/
theorem pending_afterCalls (answers : Address → LookupOutcome) {service : LookupService}
    (fresh : service.IsFresh) (calls : List Call) :
    (calls.foldl (afterCall answers) service).resolver.pending.Perm
      ((calls.foldl (afterCall answers) service).queue ++
        service.givenUpDuring answers calls) := by
  have consistent := Lookup.Interrupted.consistent_start service.resolver.enabled
  have represents : Lookup.Represents service []
      (Lookup.Interrupted.start service.resolver.enabled).state :=
    ⟨fresh.resolver.symm, fresh.queue.symm, rfl, fresh.asked.symm, rfl⟩
  obtain ⟨later, _, run, laterRepresents, idle, givenUp⟩ :=
    Lookup.exists_steps_calls answers calls consistent represents rfl
  have parts := Lookup.Interrupted.pending_perm (Lookup.Interrupted.consistent_steps consistent run)
  rw [laterRepresents.resolver, Lookup.Interrupted.scheduled, laterRepresents.queue,
    laterRepresents.workers, idle, List.map_nil, List.append_nil, List.nil_append] at parts
  exact parts.trans (givenUp.append_left _)

/-- A shutdown cancels the one lookup of a service, and the executor of another one refuses the
second of two lookups.  Both addresses stay pending and have no lookup; neither is given one
when it is requested again. -/
theorem some_pending_addresses_are_abandoned :
    ∃ shutDown refusing : LookupService,
      shutDown = ((withOwnExecutor true).request (fun _ => .name "one.example.")
        [.four 10 0 0 1]).1.shutdown.1 ∧
      shutDown.pendingCount = 1 ∧
      shutDown.queue = [] ∧
      (shutDown.request (fun _ => .name "one.example.") [.four 10 0 0 1]).1.queue = [] ∧
      refusing = ((withExecutor .queued true).requestUntilRefused (fun _ => .name "one.example.")
        (fun address => address = .four 10 0 0 1) [.four 10 0 0 1, .four 10 0 0 2]).1 ∧
      refusing.pendingCount = 2 ∧
      refusing.queue = [.four 10 0 0 1] ∧
      (refusing.request (fun _ => .name "one.example.") [.four 10 0 0 2]).1.queue =
        [.four 10 0 0 1] := by
  refine ⟨_, _, rfl, ?_, ?_, ?_, rfl, ?_, ?_, ?_⟩ <;> decide

end LookupService

end TrafficBoard
