import TrafficBoard.Proofs.Lookup.AtMostOnce
import TrafficBoard.Proofs.Lookup.Sessions

/-!
# Names that were found are kept

The name service may answer differently each time it is asked.  A lookup service that
started with no names still keeps every name that it once found, since it asks for an
address only once.
-/

namespace TrafficBoard

namespace Lookup

/-- Any outcome of a lookup. -/
def AnyOutcome (_ : Address) (_ : LookupOutcome) : Prop := True

/-- A step is still one when more outcomes are possible. -/
theorem Step.mono {possible more : Address → LookupOutcome → Prop} {state next : State}
    (wider : ∀ address outcome, possible address outcome → more address outcome)
    (step : Step possible state next) : Step more state next := by
  cases step with
  | claim addresses todo order => exact .claim addresses todo order
  | submit caller => exact .submit caller
  | ask waiting => exact .ask waiting
  | answer worker may => exact .answer worker (wider _ _ may)
  | settle worker => exact .settle worker
  | release worker => exact .release worker

theorem Steps.mono {possible more : Address → LookupOutcome → Prop} {state later : State}
    (wider : ∀ address outcome, possible address outcome → more address outcome)
    (steps : Steps possible state later) : Steps more state later :=
  Relation.ReflTransGen.mono
    (fun _ _ (step : Step possible _ _) => step.mono wider) _ _ steps

theorem Steps.toAnyOutcome {answers : Address → LookupOutcome} {state later : State}
    (steps : Steps (AnswersOf answers) state later) : Steps AnyOutcome state later :=
  Steps.mono (fun _ _ _ => trivial) steps

end Lookup

namespace LookupService

/-- Nothing is known, waits or was asked for. -/
structure IsFresh (service : LookupService) : Prop where
  resolver : service.resolver = .start service.resolver.enabled
  queue : service.queue = []
  asked : service.asked = []

/-- The service stands where callers and workers can have brought it from a start, and no
caller or worker is busy. -/
def Reachable (service : LookupService) : Prop :=
  ∃ (enabled : Bool) (requested : List Address) (state : Lookup.State),
    Lookup.Steps Lookup.AnyOutcome (.start enabled) state ∧
      Lookup.Represents service requested state ∧ state.callers.flatten = []

theorem IsFresh.reachable {service : LookupService} (fresh : service.IsFresh) :
    service.Reachable := by
  refine ⟨service.resolver.enabled, [], .start service.resolver.enabled, .refl, ?_, rfl⟩
  exact ⟨fresh.resolver.symm, fresh.queue.symm, rfl, fresh.asked.symm, rfl⟩

/-- An event leads on from where the service stands, and keeps what is recorded. -/
theorem Reachable.handle {service : LookupService} (reachable : service.Reachable)
    (answers : Address → LookupOutcome) (event : Event) :
    (service.handle answers event).Reachable ∧
      service.resolver.IsKeptBy (service.handle answers event).resolver := by
  obtain ⟨enabled, requested, state, run, represents, idle⟩ := reachable
  have consistent := Lookup.consistent_of_steps run
  have distinct := represents.queue ▸ consistent.queue_nodup
  obtain ⟨later, more, laterRepresents, laterIdle⟩ :=
    Lookup.exists_steps_handle answers represents idle distinct event
  have steps := more.toAnyOutcome
  constructor
  · exact ⟨enabled, _, later, run.trans steps, laterRepresents, laterIdle⟩
  · rw [← represents.resolver, ← laterRepresents.resolver]
    exact Lookup.isKeptBy_steps consistent steps

end LookupService

end TrafficBoard
