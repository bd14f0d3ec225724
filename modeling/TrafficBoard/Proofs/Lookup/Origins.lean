import TrafficBoard.Proofs.Lookup.Interleaving

/-!
# Where recorded names and failures come from

Callers and workers record nothing of their own.  Each hostname and each failure that a
resolver knows is the outcome of a lookup of that address, and so one of the outcomes that
the name service may give for it.
-/

namespace TrafficBoard

/-- Each recorded name and failure is that of an outcome which is possible for its address. -/
structure Resolver.RecordsFrom (possible : Address → LookupOutcome → Prop) (resolver : Resolver) :
    Prop where
  cached : ∀ address host, resolver.cache.find? address = some host →
    ∃ outcome, possible address outcome ∧ hostname? outcome = some host
  failed : ∀ address ∈ resolver.failed,
    ∃ outcome, possible address outcome ∧ hostname? outcome = none

variable {possible : Address → LookupOutcome → Prop}

namespace Resolver.RecordsFrom

variable {resolver : Resolver}

theorem start (enabled : Bool) : (Resolver.start enabled).RecordsFrom possible where
  cached address host found := by cases found
  failed address member := by cases member

/-- Settling records the outcome that it is given, and nothing else. -/
theorem settle (records : resolver.RecordsFrom possible) {address : Address}
    {outcome : LookupOutcome} (may : possible address outcome) :
    (resolver.settle address outcome).RecordsFrom possible := by
  constructor
  · intro other host found
    rw [find?_settle] at found
    split at found
    · next named =>
        rw [← named.1]
        exact ⟨outcome, may, found⟩
    · exact records.cached other host found
  · intro other failed
    rcases mem_failed_settle.1 failed with ⟨same, nameless⟩ | old
    · rw [same]
      exact ⟨outcome, may, nameless⟩
    · exact records.failed other old

end Resolver.RecordsFrom

namespace Lookup

variable {state next later : State}

/-- What is recorded, and what workers have been answered, is possible. -/
structure Origins (possible : Address → LookupOutcome → Prop) (state : State) : Prop where
  records : state.resolver.RecordsFrom possible
  answered : ∀ address outcome, .answered address outcome ∈ state.workers →
    possible address outcome

namespace Origins

theorem start (enabled : Bool) : Origins possible (.start enabled) where
  records := .start enabled
  answered address outcome member := by cases member

/-- Only an answer brings an outcome, and only settling it records one. -/
theorem step (origins : Origins possible state) (step : Step possible state next) :
    Origins possible next := by
  cases step with
  | claim addresses todo order =>
      rw [Resolver.claim_snd]
      exact ⟨⟨origins.records.cached, origins.records.failed⟩, origins.answered⟩
  | submit caller => exact ⟨origins.records, origins.answered⟩
  | ask waiting =>
      refine ⟨origins.records, ?_⟩
      intro address outcome member
      apply origins.answered
      simpa using member
  | answer worker may =>
      refine ⟨origins.records, ?_⟩
      intro other given member
      rcases eq_or_mem_of_mem_replaced member with same | old
      · cases same
        exact may
      · apply origins.answered
        rw [worker]
        exact old
  | @settle before after address outcome worker =>
      have may : possible address outcome := by
        apply origins.answered
        rw [worker]
        exact List.mem_append_right _ List.mem_cons_self
      refine ⟨origins.records.settle may, ?_⟩
      intro other given member
      rcases eq_or_mem_of_mem_replaced member with same | old
      · cases same
      · apply origins.answered
        rw [worker]
        exact old
  | release worker =>
      refine ⟨⟨origins.records.cached, origins.records.failed⟩, ?_⟩
      intro other given member
      apply origins.answered
      rw [worker]
      exact mem_of_mem_rest member

theorem steps (origins : Origins possible state) (run : Steps possible state later) :
    Origins possible later := by
  induction run with
  | refl => exact origins
  | tail _ step ih => exact ih.step step

end Origins

/-- Each name that the name service may give for an address is cached in some run. -/
theorem exists_steps_cached {address : Address} {outcome : LookupOutcome} {host : String}
    (may : possible address outcome) (found : Resolver.hostname? outcome = some host) :
    ∃ state, Steps possible (.start true) state ∧
      state.resolver.cache.find? address = some host := by
  have order : [address].Perm ((State.start true).resolver.claim [address]).1 := by
    apply (List.perm_ext_iff_of_nodup (List.nodup_singleton address) (Resolver.nodup_claim ..)).2
    intro other
    simp [Resolver.mem_claim, State.start, Resolver.start, Resolver.Recorded]
  have claimed := Relation.ReflTransGen.single (@Step.claim possible (.start true) [address] _ order)
  have submitted := claimed.tail (@Step.submit _ _ [] [] address [] rfl)
  have run := submitted.trans (@steps_lookUp _ _ [] [] address outcome rfl rfl may)
  refine ⟨_, run, ?_⟩
  change (Resolver.settle _ address outcome).cache.find? address = some host
  rw [Resolver.find?_settle, found]
  simp

end Lookup

end TrafficBoard
