import TrafficBoard.Proofs.Lookup.Origins

/-!
# The outcome does not depend on the order

If the name service always gives the same answer for an address, then the hostnames and
failures recorded in the end are those of the answers for the requested addresses.  In
which order the lookups ran, and how the requests were split and repeated, is not seen
in them.
-/

namespace TrafficBoard

/-- Nothing is pending, and what is recorded is the answer for each requested address. -/
structure Resolver.IsOutcome (answers : Address → LookupOutcome) (requested : List Address)
    (resolver : Resolver) : Prop where
  pending : resolver.pending.length = 0
  cached : ∀ address, resolver.cache.find? address =
    if address ∈ requested then hostname? (answers address) else none
  failed : ∀ address, address ∈ resolver.failed ↔
    address ∈ requested ∧ hostname? (answers address) = none

namespace Lookup

/-- The outcome that the name service gives for an address. -/
def AnswersOf (answers : Address → LookupOutcome) (address : Address) (outcome : LookupOutcome) :
    Prop :=
  outcome = answers address

variable {answers : Address → LookupOutcome} {state : State}

/-! ## What is recorded is true -/

/-- All that was requested is claimed, and what is recorded agrees with the answers. -/
structure Truthful (answers : Address → LookupOutcome) (state : State) : Prop where
  claimed_iff : ∀ address, address ∈ state.claimed ↔ address ∈ state.requested
  cached : ∀ address host, state.resolver.cache.find? address = some host →
    Resolver.hostname? (answers address) = some host
  failed : ∀ address ∈ state.resolver.failed, Resolver.hostname? (answers address) = none
  answered : ∀ address outcome, .answered address outcome ∈ state.workers →
    outcome = answers address

/-- What comes from the answers agrees with them. -/
theorem Truthful.of_origins
    (claimed_iff : ∀ address, address ∈ state.claimed ↔ address ∈ state.requested)
    (origins : Origins (AnswersOf answers) state) : Truthful answers state where
  claimed_iff := claimed_iff
  cached address host found := by
    obtain ⟨outcome, rfl, name⟩ := origins.records.cached address host found
    exact name
  failed address member := by
    obtain ⟨outcome, rfl, nameless⟩ := origins.records.failed address member
    exact nameless
  answered := origins.answered

/-- An enabled resolver has claimed all that was requested. -/
theorem claimed_iff_of_steps {possible : Address → LookupOutcome → Prop}
    (run : Steps possible (.start true) state) (address : Address) :
    address ∈ state.claimed ↔ address ∈ state.requested := by
  induction run with
  | refl => exact Iff.rfl
  | @tail state _ run step ih =>
      cases step with
      | claim addresses todo order =>
          simp only [List.mem_append, order.mem_iff, Resolver.mem_claim]
          constructor
          · intro member
            rcases member with old | new
            · exact .inl (ih.1 old)
            · exact .inr new.2.1
          · intro member
            rcases member with old | new
            · exact .inl (ih.2 old)
            · -- a requested address is claimed now, unless it was before
              by_cases known : state.resolver.Recorded address ∨ address ∈ state.resolver.pending
              · exact .inl (((consistent_of_steps run).claimed_iff address).2 known)
              · rw [not_or] at known
                exact .inr ⟨enabled_steps run, new, known⟩
      | submit | ask | answer | settle | release => exact ih

theorem truthful_of_steps (run : Steps (AnswersOf answers) (.start true) state) :
    Truthful answers state :=
  .of_origins (claimed_iff_of_steps run) ((Origins.start true).steps run)

/-! ## When every lookup has ended -/

theorem pending_eq_nil_of_idle (consistent : Consistent state) (idle : state.IsIdle) :
    state.resolver.pending = [] := by
  rcases idle with ⟨callers, queue, workers⟩
  have nothing := consistent.pending_perm
  rw [State.underWay, callers, queue, workers] at nothing
  exact nothing.eq_nil

theorem recorded_iff_of_idle (consistent : Consistent state) (truthful : Truthful answers state)
    (idle : state.IsIdle) (address : Address) :
    state.resolver.Recorded address ↔ address ∈ state.requested := by
  rw [← truthful.claimed_iff, consistent.claimed_iff, pending_eq_nil_of_idle consistent idle]
  exact (or_iff_left List.not_mem_nil).symm

theorem isOutcome_of_idle (run : Steps (AnswersOf answers) (.start true) state)
    (idle : state.IsIdle) : state.resolver.IsOutcome answers state.requested := by
  have consistent := consistent_of_steps run
  have truthful := truthful_of_steps run
  have recorded := recorded_iff_of_idle consistent truthful idle
  constructor
  · rw [pending_eq_nil_of_idle consistent idle]
    rfl
  · intro address
    cases found : state.resolver.cache.find? address with
    | some host =>
        have cached : address ∈ state.resolver.cache.keys := by
          rw [← Keyed.find?_isSome_iff, found]
          rfl
        rw [if_pos ((recorded address).1 (.inl cached))]
        exact (truthful.cached address host found).symm
    | none =>
        split
        · next requested =>
            rcases (recorded address).2 requested with cached | failed
            · rw [← Keyed.find?_isSome_iff, found] at cached
              cases cached
            · exact (truthful.failed address failed).symm
        · rfl
  · intro address
    constructor
    · intro failed
      exact ⟨(recorded address).1 (.inr failed), truthful.failed address failed⟩
    · rintro ⟨requested, nothing⟩
      refine ((recorded address).2 requested).resolve_left fun cached => ?_
      obtain ⟨host, found⟩ := Option.isSome_iff_exists.1 (Keyed.find?_isSome_iff.2 cached)
      rw [truthful.cached address host found] at nothing
      cases nothing

/-! ## Every lookup can end -/

/-- The callers submit what they have claimed. -/
theorem exists_steps_allSubmitted (todo : List Address) (callers : state.callers.flatten = todo) :
    ∃ later, Steps (AnswersOf answers) state later ∧
      later.callers.flatten = [] ∧ later.requested = state.requested := by
  induction todo generalizing state with
  | nil => exact ⟨state, .refl, callers, rfl⟩
  | cons address todo ih =>
      rcases List.flatten_eq_cons_iff.1 callers with ⟨before, rest, after, split, done, remaining⟩
      obtain ⟨next, submitted, fewer, same⟩ : ∃ next, Step (AnswersOf answers) state next ∧
          next.callers.flatten = todo ∧ next.requested = state.requested := by
        refine ⟨_, .submit split, ?_, rfl⟩
        rw [List.flatten_append, List.flatten_eq_nil_iff.2 done, List.flatten_cons, remaining]
        rfl
      rcases ih fewer with ⟨later, run, idle, requested⟩
      exact ⟨later, run.head submitted, idle, requested.trans same⟩

theorem exists_steps_workerEnds {worker : Worker} {rest : List Worker}
    (busy : state.workers = worker :: rest) :
    ∃ later, Steps (AnswersOf answers) state later ∧
      later.callers = state.callers ∧ later.workers = rest ∧
      later.requested = state.requested := by
  cases worker with
  | asking address =>
      have answered := Relation.ReflTransGen.single
        (@Step.answer (AnswersOf answers) _ [] rest address _ busy rfl)
      have settled := answered.tail (@Step.settle _ _ [] rest address _ rfl)
      exact ⟨_, settled.tail (@Step.release _ _ [] rest address rfl), rfl, rfl, rfl⟩
  | answered address outcome =>
      have settled := Relation.ReflTransGen.single
        (@Step.settle (AnswersOf answers) _ [] rest address outcome busy)
      exact ⟨_, settled.tail (@Step.release _ _ [] rest address rfl), rfl, rfl, rfl⟩
  | settled address =>
      exact ⟨_, .single (@Step.release _ _ [] rest address busy), rfl, rfl, rfl⟩

/-- The workers that are busy end their lookups. -/
theorem exists_steps_workersEnd (workers : List Worker) (busy : state.workers = workers) :
    ∃ later, Steps (AnswersOf answers) state later ∧
      later.callers = state.callers ∧ later.workers = [] ∧
      later.requested = state.requested := by
  induction workers generalizing state with
  | nil => exact ⟨state, .refl, rfl, busy, rfl⟩
  | cons worker rest ih =>
      rcases exists_steps_workerEnds busy with ⟨next, first, callers, fewer, requested⟩
      rcases ih fewer with ⟨later, run, laterCallers, free, laterRequested⟩
      exact ⟨later, first.trans run, laterCallers.trans callers, free,
        laterRequested.trans requested⟩

/-- The lookups that wait run one after another. -/
theorem exists_steps_queueRuns (queue : List Address) (waiting : state.queue = queue)
    (free : state.workers = []) :
    ∃ later, Steps (AnswersOf answers) state later ∧
      later.callers = state.callers ∧ later.queue = [] ∧ later.workers = [] ∧
      later.requested = state.requested := by
  induction queue generalizing state with
  | nil => exact ⟨state, .refl, rfl, waiting, free, rfl⟩
  | cons address rest ih =>
      obtain ⟨next, first, callers, fewer, stillFree, requested⟩ :
          ∃ next, Steps (AnswersOf answers) state next ∧ next.callers = state.callers ∧
            next.queue = rest ∧ next.workers = [] ∧ next.requested = state.requested :=
        ⟨_, @steps_lookUp _ _ [] rest address _ free waiting rfl, rfl, rfl, rfl, rfl⟩
      rcases ih fewer stillFree with ⟨later, run, laterCallers, nothing, laterFree, laterRequested⟩
      exact ⟨later, first.trans run, laterCallers.trans callers, nothing, laterFree,
        laterRequested.trans requested⟩

/-- From every state, all lookups can end without another request. -/
theorem exists_idle (answers : Address → LookupOutcome) (state : State) :
    ∃ final, Steps (AnswersOf answers) state final ∧ final.IsIdle ∧
      final.requested = state.requested := by
  rcases @exists_steps_allSubmitted answers state _ rfl with ⟨submitted, first, idle, sameFirst⟩
  obtain ⟨ended, second, sameCallers, free, sameSecond⟩ :=
    @exists_steps_workersEnd answers submitted _ rfl
  obtain ⟨final, third, finalCallers, nothing, finalFree, sameThird⟩ :=
    @exists_steps_queueRuns answers ended _ rfl free
  refine ⟨final, (first.trans second).trans third, ⟨?_, nothing, finalFree⟩, ?_⟩
  · rw [finalCallers, sameCallers]
    exact idle
  · exact sameThird.trans (sameSecond.trans sameFirst)

/-! ## Order independence -/

/-- Outcomes for the same addresses record the same. -/
theorem agree_of_isOutcome {first second : List Address} {left right : Resolver}
    (leftOutcome : left.IsOutcome answers first) (rightOutcome : right.IsOutcome answers second)
    (same : ∀ address, address ∈ first ↔ address ∈ second) :
    (∀ address, left.cache.find? address = right.cache.find? address) ∧
      ∀ address, address ∈ left.failed ↔ address ∈ right.failed := by
  constructor
  · intro address
    rw [leftOutcome.cached, rightOutcome.cached]
    simp only [same]
  · intro address
    rw [leftOutcome.failed, rightOutcome.failed, same]

/-- Whatever was requested so far, in whichever order, all lookups can end; and whenever they
have ended, nothing is pending, each requested address is recorded with its answer, and
every other run that has requested the same addresses and has ended records the same. -/
theorem outcome_independent_of_order (run : Steps (AnswersOf answers) (.start true) state) :
    (∃ final, Steps (AnswersOf answers) state final ∧ final.IsIdle ∧
      final.requested = state.requested) ∧
    (state.IsIdle →
      state.resolver.IsOutcome answers state.requested ∧
      ∀ other, Steps (AnswersOf answers) (.start true) other → other.IsIdle →
        (∀ address, address ∈ state.requested ↔ address ∈ other.requested) →
        (∀ address,
          state.resolver.cache.find? address = other.resolver.cache.find? address) ∧
        ∀ address, address ∈ state.resolver.failed ↔ address ∈ other.resolver.failed) := by
  refine ⟨exists_idle answers state, fun idle => ?_⟩
  have outcome := isOutcome_of_idle run idle
  refine ⟨outcome, ?_⟩
  intro other otherRun otherIdle same
  exact agree_of_isOutcome outcome (isOutcome_of_idle otherRun otherIdle) same

/-- Two addresses are requested together in one run and one after the other in another run,
in which the second lookup runs first. -/
theorem outcome_independent_of_order_two :
    ∃ together apart : State,
      Steps (AnswersOf fun address =>
        if address = .four 10 0 0 1 then .name "one.example.." else .failure "no name")
        (.start true) together ∧
      together.asked = [.four 10 0 0 1, .four 10 0 0 2] ∧
      apart.asked = [.four 10 0 0 2, .four 10 0 0 1] ∧
      together.resolver.cache.find? (.four 10 0 0 1) = some "one.example" ∧
      together.resolver.failed = [.four 10 0 0 2] ∧
      (∀ address, together.resolver.cache.find? address = apart.resolver.cache.find? address) ∧
      ∀ address, address ∈ together.resolver.failed ↔ address ∈ apart.resolver.failed := by
  have both := Relation.ReflTransGen.single (@Step.claim (AnswersOf fun address =>
    if address = .four 10 0 0 1 then .name "one.example.." else .failure "no name")
    (.start true) [.four 10 0 0 1, .four 10 0 0 2, .four 10 0 0 1] _ (.refl _))
  have bothSubmitted := (both.tail (@Step.submit _ _ [] _ _ _ rfl)).tail
    (@Step.submit _ _ [] _ _ _ rfl)
  have together := (bothSubmitted.trans (@steps_lookUp _ _ [] _ _ _ rfl rfl rfl)).trans
    (@steps_lookUp _ _ [] _ _ _ rfl rfl rfl)
  have second := Relation.ReflTransGen.single (@Step.claim (AnswersOf fun address =>
    if address = .four 10 0 0 1 then .name "one.example.." else .failure "no name")
    (.start true) [.four 10 0 0 2] _ (.refl _))
  have secondEnded := (second.tail (@Step.submit _ _ [] _ _ _ rfl)).trans
    (@steps_lookUp _ _ [] _ _ _ rfl rfl rfl)
  have first := secondEnded.tail (.claim [.four 10 0 0 1, .four 10 0 0 2] _ (.refl _))
  have apart := (first.tail (@Step.submit _ _ [] _ _ _ rfl)).trans
    (@steps_lookUp _ _ [] _ _ _ rfl rfl rfl)
  rcases outcome_independent_of_order together with ⟨-, outcome⟩
  rcases outcome ⟨rfl, rfl, rfl⟩ with ⟨⟨-, cached, -⟩, same⟩
  refine ⟨_, _, together, rfl, rfl, ?_, by decide, same _ apart ⟨rfl, rfl, rfl⟩ ?_⟩
  · rw [cached]
    rfl
  · intro address
    change address ∈ [.four 10 0 0 1, .four 10 0 0 2, .four 10 0 0 1] ↔
      address ∈ [.four 10 0 0 2, .four 10 0 0 1, .four 10 0 0 2]
    simp only [List.mem_cons, List.not_mem_nil, or_false]
    grind

end Lookup

end TrafficBoard
