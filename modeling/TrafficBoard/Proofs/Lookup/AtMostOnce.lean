import TrafficBoard.Proofs.Lookup.Interleaving

/-!
# No address is looked up twice

However the callers and the workers of a resolver interleave, and however the lookups
end, each address is submitted and looked up at most once, and what has been recorded of
it stays recorded.  A disabled resolver submits nothing.
-/

namespace TrafficBoard

/-- Every name and every failure recorded in one resolver is recorded in a later one. -/
structure Resolver.IsKeptBy (earlier later : Resolver) : Prop where
  name : ∀ address host,
    earlier.cache.find? address = some host → later.cache.find? address = some host
  failure : ∀ address ∈ earlier.failed, address ∈ later.failed

namespace Resolver.IsKeptBy

theorem refl (resolver : Resolver) : resolver.IsKeptBy resolver :=
  ⟨fun _ _ known => known, fun _ known => known⟩

theorem trans {earlier later last : Resolver} (first : earlier.IsKeptBy later)
    (second : later.IsKeptBy last) : earlier.IsKeptBy last :=
  ⟨fun address host known => second.name address host (first.name address host known),
    fun address known => second.failure address (first.failure address known)⟩

/-- Settling an address that was not recorded keeps what was. -/
theorem settle {resolver : Resolver} {address : Address} (outcome : LookupOutcome)
    (fresh : ¬resolver.Recorded address) :
    resolver.IsKeptBy (resolver.settle address outcome) := by
  constructor
  · intro other host known
    rw [find?_settle, if_neg]
    · exact known
    · rintro ⟨rfl, -⟩
      apply fresh
      left
      rw [← Keyed.find?_isSome_iff, known]
      rfl
  · intro other known
    exact mem_failed_settle.2 (.inr known)

end Resolver.IsKeptBy

namespace Lookup

variable {possible : Address → LookupOutcome → Prop} {state next later : State}

/-! ## What is recorded stays recorded -/

/-- The address of an answer that is not settled yet is not recorded. -/
theorem Consistent.answered_not_recorded (consistent : Consistent state)
    {before after : List Worker} {address : Address} {outcome : LookupOutcome}
    (worker : state.workers = before ++ .answered address outcome :: after) :
    ¬state.resolver.Recorded address := by
  apply consistent.unsettled_not_recorded
  apply List.mem_append_right
  rw [worker, List.filterMap_append, List.filterMap_cons]
  exact List.mem_append_right _ List.mem_cons_self

theorem isKeptBy_step (consistent : Consistent state) (step : Step possible state next) :
    state.resolver.IsKeptBy next.resolver := by
  cases step with
  | claim addresses todo order =>
      rw [Resolver.claim_snd]
      exact ⟨fun _ _ known => known, fun _ known => known⟩
  | submit caller => exact .refl _
  | ask waiting => exact .refl _
  | answer worker may => exact .refl _
  | settle worker => exact .settle _ (consistent.answered_not_recorded worker)
  | release worker => exact ⟨fun _ _ known => known, fun _ known => known⟩

theorem isKeptBy_steps (consistent : Consistent state) (run : Steps possible state later) :
    state.resolver.IsKeptBy later.resolver := by
  induction run with
  | refl => exact .refl _
  | tail run step ih => exact ih.trans (isKeptBy_step (consistent.steps run) step)

/-! ## A disabled resolver -/

/-- A disabled resolver has nothing claimed. -/
theorem claimed_eq_nil_of_disabled (run : Steps possible (.start false) state) :
    state.claimed = [] := by
  induction run with
  | refl => rfl
  | tail run step ih =>
      cases step with
      | claim addresses todo order =>
          have nothing : todo = [] := by
            apply List.eq_nil_iff_forall_not_mem.2
            intro address member
            have enabled := (Resolver.mem_claim.1 (order.mem_iff.1 member)).1
            rw [enabled_steps run] at enabled
            exact Bool.false_ne_true enabled
          rw [ih, nothing]
          rfl
      | submit | ask | answer | settle | release => exact ih

/-! ## At most once -/

/-- After any interleaving of callers and workers, no address has been submitted or looked
up twice; no address is both cached and failed; exactly the claimed addresses are cached,
failed or pending, and those without a recorded outcome are pending; and what is recorded
is kept whatever happens next.  If the resolver is disabled, nothing has been submitted. -/
theorem lookups_at_most_once {enabled : Bool} (run : Steps possible (.start enabled) state) :
    state.submitted.Nodup ∧
    state.asked.Nodup ∧
    (∀ address, ¬(address ∈ state.resolver.cache.keys ∧ address ∈ state.resolver.failed)) ∧
    (∀ address, address ∈ state.claimed ↔
      address ∈ state.resolver.cache.keys ∨ address ∈ state.resolver.failed ∨
        address ∈ state.resolver.pending) ∧
    (∀ address ∈ state.unsettled, address ∈ state.resolver.pending) ∧
    (∀ later, Steps possible state later → state.resolver.IsKeptBy later.resolver) ∧
    (enabled = false → state.submitted = [] ∧ state.asked = []) := by
  have consistent := consistent_of_steps run
  refine ⟨consistent.submitted_nodup, consistent.asked_nodup, ?_, ?_, ?_, ?_, ?_⟩
  · rintro address ⟨cached, failed⟩
    exact consistent.cached_not_failed address cached failed
  · intro address
    rw [consistent.claimed_iff address, Resolver.Recorded, or_assoc]
  · intro address member
    exact consistent.pending_of_unsettled member
  · intro later more
    exact isKeptBy_steps consistent more
  · rintro rfl
    have claimed := consistent.claimed_perm
    rw [claimed_eq_nil_of_disabled run] at claimed
    have nothing := List.append_eq_nil_iff.1 claimed.nil_eq.symm
    have submitted := consistent.submitted_perm
    rw [nothing.2] at submitted
    exact ⟨nothing.2, (List.append_eq_nil_iff.1 submitted.nil_eq.symm).2⟩

/-- Three callers ask for two addresses, the last one for an address that is cached and
still pending.  One lookup finds a name, and the other fails. -/
theorem lookups_at_most_once_overlapping :
    ∃ state : State, Steps (fun _ _ => True) (.start true) state ∧
      state.requested = [.four 10 0 0 1, .four 10 0 0 2, .four 10 0 0 2, .four 10 0 0 1] ∧
      state.asked = [.four 10 0 0 1, .four 10 0 0 2] ∧
      state.asked.Nodup ∧
      (.four 10 0 0 1) ∈ state.resolver.cache.keys ∧
      (.four 10 0 0 1) ∉ state.resolver.failed := by
  have both : Steps (fun _ _ => True) (.start true) _ :=
    .single (.claim [.four 10 0 0 1, .four 10 0 0 2] _ (.refl _))
  have again := both.tail (.claim [.four 10 0 0 2] _ (.refl _))
  have submitted := again.tail (@Step.submit _ _ [[]] _ _ _ rfl)
  have asked := submitted.tail (@Step.ask _ _ [] _ _ rfl)
  have answered := asked.tail
    (@Step.answer _ _ [] _ _ (.name "one.example.") rfl trivial)
  have settled := answered.tail (@Step.settle _ _ [] _ _ _ rfl)
  have cached := settled.tail (.claim [.four 10 0 0 1] _ (.refl _))
  have released := cached.tail (@Step.release _ _ [] _ _ rfl)
  have second := released.tail (@Step.submit _ _ [[], []] _ _ _ rfl)
  have secondAsked := second.tail (@Step.ask _ _ [] _ _ rfl)
  have secondFailed := secondAsked.tail
    (@Step.answer _ _ [] _ _ (.failure "timed out") rfl trivial)
  have run := (secondFailed.tail (@Step.settle _ _ [] _ _ _ rfl)).tail
    (@Step.release _ _ [] _ _ rfl)
  rcases lookups_at_most_once run with ⟨_, once, disjoint, -⟩
  refine ⟨_, run, rfl, rfl, once, ?_, ?_⟩
  · decide
  · exact fun failed => disjoint _ ⟨by decide, failed⟩

end Lookup

end TrafficBoard
