import Mathlib.Data.List.DropRight
import TrafficBoard.Lookup.Resolver
import TrafficBoard.Proofs.Keyed.Tabulated

/-!
# What the steps of a resolver do

Claiming, settling and releasing are described by what they do to the recorded
addresses, those cached or failed, and to the pending ones.
-/

namespace TrafficBoard.Resolver

/-- The outcome of an address is known: it is cached or failed. -/
def Recorded (resolver : Resolver) (address : Address) : Prop :=
  address ∈ resolver.cache.keys ∨ address ∈ resolver.failed

theorem isUnknown_iff {resolver : Resolver} {address : Address} :
    resolver.isUnknown address = true ↔
      ¬resolver.Recorded address ∧ address ∉ resolver.pending := by
  simp only [isUnknown, Recorded, Bool.and_eq_true, Bool.not_eq_true', ← Bool.not_eq_true,
    Keyed.contains_iff, List.contains_iff_mem, not_or]

/-! ## Claiming -/

/-- What is claimed was asked for and is neither recorded nor pending. -/
theorem mem_claim {resolver : Resolver} {addresses : List Address} {address : Address} :
    address ∈ (resolver.claim addresses).1 ↔
      resolver.enabled = true ∧ address ∈ addresses ∧ ¬resolver.Recorded address ∧
        address ∉ resolver.pending := by
  cases enabled : resolver.enabled with
  | false => simp [claim, enabled]
  | true =>
      simp only [claim, enabled, if_true, unknown, List.mem_filter, List.mem_eraseDups,
        isUnknown_iff, true_and]

theorem nodup_claim (resolver : Resolver) (addresses : List Address) :
    (resolver.claim addresses).1.Nodup := by
  cases enabled : resolver.enabled with
  | false => simp [claim, enabled]
  | true =>
      simp only [claim, enabled, if_true, unknown]
      exact (Keyed.nodup_eraseDups addresses).filter _

/-- Claiming makes the claimed addresses pending and changes nothing else. -/
theorem claim_snd (resolver : Resolver) (addresses : List Address) :
    (resolver.claim addresses).2 =
      { resolver with pending := resolver.pending ++ (resolver.claim addresses).1 } := by
  rcases resolver with ⟨enabled, cache, failed, pending⟩
  cases enabled with
  | false => simp [claim]
  | true => simp [claim]

/-! ## Settling -/

/-- The hostname that a lookup finds: the name in the answer without its last dots. -/
def hostname? : LookupOutcome → Option String
  | .name text => some (String.ofList (text.toList.rdropWhile (· = '.')))
  | .failure _ => none
  | .surprise _ => none

@[simp] theorem pending_settle (resolver : Resolver) (address : Address)
    (outcome : LookupOutcome) : (resolver.settle address outcome).pending = resolver.pending := by
  cases outcome with
  | name text => rfl
  | failure reason | surprise reason =>
      simp only [settle]
      split <;> rfl

@[simp] theorem enabled_settle (resolver : Resolver) (address : Address)
    (outcome : LookupOutcome) : (resolver.settle address outcome).enabled = resolver.enabled := by
  cases outcome with
  | name text => rfl
  | failure reason | surprise reason =>
      simp only [settle]
      split <;> rfl

/-- A lookup that finds a hostname changes the cached name of its address only, and
one that finds none changes no cached name. -/
theorem find?_settle (resolver : Resolver) (address other : Address) (outcome : LookupOutcome) :
    (resolver.settle address outcome).cache.find? other =
      if address = other ∧ hostname? outcome ≠ none then hostname? outcome
      else resolver.cache.find? other := by
  cases outcome with
  | name text =>
      simp only [settle, Keyed.find?_insert, hostname?, ne_eq, reduceCtorEq, not_false_eq_true,
        and_true]
      rfl
  | failure reason | surprise reason =>
      simp only [settle, hostname?, ne_eq, not_true_eq_false, and_false, if_false]
      split <;> rfl

/-- A lookup that finds no hostname makes its address fail. -/
theorem mem_failed_settle {resolver : Resolver} {address other : Address}
    {outcome : LookupOutcome} :
    other ∈ (resolver.settle address outcome).failed ↔
      other = address ∧ hostname? outcome = none ∨ other ∈ resolver.failed := by
  cases outcome with
  | name text => simp [settle, hostname?]
  | failure reason | surprise reason =>
      simp only [settle, hostname?, and_true]
      split
      · next known =>
          rw [or_iff_right_of_imp]
          rintro rfl
          exact List.contains_iff_mem.1 known
      · rw [List.mem_append, List.mem_singleton, or_comm]

/-- A settled address is recorded, and nothing that was recorded is lost. -/
theorem recorded_settle {resolver : Resolver} {address other : Address}
    {outcome : LookupOutcome} :
    (resolver.settle address outcome).Recorded other ↔
      other = address ∨ resolver.Recorded other := by
  simp only [Recorded, ← Keyed.find?_isSome_iff, find?_settle, mem_failed_settle]
  by_cases same : address = other
  · subst same
    cases found : hostname? outcome <;> simp
  · have different : other ≠ address := fun equal => same equal.symm
    simp [same, different]

/-! ## Releasing -/

theorem recorded_release {resolver : Resolver} {address other : Address} :
    (resolver.release address).Recorded other ↔ resolver.Recorded other := Iff.rfl

theorem mem_pending_release {resolver : Resolver} {address other : Address} :
    other ∈ (resolver.release address).pending ↔ other ∈ resolver.pending ∧ other ≠ address := by
  simp [release]

end TrafficBoard.Resolver
