import TrafficBoard.Lookup.Service
import TrafficBoard.Proofs.Lookup.Outcome

/-!
# Sessions of the lookup service

The lookup service runs each lookup to its end before anything else happens.  What it
does in a session is therefore one of the interleavings, in which the name service
gives the answers of the session.
-/

namespace TrafficBoard

namespace LookupService

/-- What a lookup service is told to do. -/
inductive Event where
  | request (addresses : List Address)
  | complete (address : Address)
  | completeAll

/-- The addresses that an event asks for. -/
def Event.requested : Event → List Address
  | request addresses => addresses
  | complete _ => []
  | completeAll => []

/-- The service after an event. -/
def handle (answers : Address → LookupOutcome) (service : LookupService) : Event → LookupService
  | .request addresses => (service.request answers addresses).1
  | .complete address => (service.complete answers address).1
  | .completeAll => (service.completeAll answers).1

/-- A service that uses an executor of others, after a session. -/
def afterSession (answers : Address → LookupOutcome) (executor : Executor) (enabled : Bool)
    (events : List Event) : LookupService :=
  events.foldl (handle answers) (withExecutor executor enabled)

end LookupService

namespace Lookup

/-- A state in which no worker is busy is that of a service that was asked for addresses. -/
structure Represents (service : LookupService) (requested : List Address) (state : State) :
    Prop where
  resolver : state.resolver = service.resolver
  queue : state.queue = service.queue
  workers : state.workers = []
  asked : state.asked = service.asked
  requested : state.requested = requested

variable (answers : Address → LookupOutcome)
variable {service : LookupService} {requested : List Address} {state : State}

/-- A submitted lookup runs at once or waits, as the executor has it. -/
theorem exists_steps_submit (represents : Represents service requested state)
    {address : Address} {rest : List Address} {others : List (List Address)}
    (callers : state.callers = (address :: rest) :: others) :
    ∃ later, Steps (AnswersOf answers) state later ∧
      Represents (service.submit answers address).1 requested later ∧
      later.callers = rest :: others := by
  rcases state with ⟨resolver, _, queue, workers, requested, claimed, earlier, asked⟩
  rcases represents with ⟨rfl, rfl, rfl, rfl, rfl⟩
  have submitted := Relation.ReflTransGen.single
    (@Step.submit (AnswersOf answers) _ [] others address rest callers)
  simp only [LookupService.submit]
  cases service.executor with
  | queued => exact ⟨_, submitted, ⟨rfl, rfl, rfl, rfl, rfl⟩, rfl⟩
  | immediate =>
      refine ⟨_, submitted.trans (steps_lookUp rfl rfl rfl), ?_, rfl⟩
      exact ⟨rfl, List.append_nil _, rfl, rfl, rfl⟩

/-- A caller submits the first ones of what it has claimed. -/
theorem exists_steps_submitFirst (first : List Address) {left : List Address}
    {others : List (List Address)} (represents : Represents service requested state)
    (callers : state.callers = (first ++ left) :: others) :
    ∃ later, Steps (AnswersOf answers) state later ∧
      Represents (LookupService.forEach (LookupService.submit answers) first service).1
        requested later ∧
      later.callers = left :: others := by
  induction first generalizing service state with
  | nil => exact ⟨state, .refl, represents, callers⟩
  | cons address rest ih =>
      obtain ⟨next, first, nextRepresents, nextCallers⟩ :=
        exists_steps_submit answers represents callers
      rcases ih nextRepresents nextCallers with ⟨later, more, laterRepresents, laterCallers⟩
      exact ⟨later, first.trans more, laterRepresents, laterCallers⟩

/-! ## Events -/

theorem exists_steps_claim (represents : Represents service requested state)
    (addresses : List Address) :
    ∃ next, Steps (AnswersOf answers) state next ∧
      Represents { service with resolver := (service.resolver.claim addresses).2 }
        (requested ++ addresses) next ∧
      next.callers = (service.resolver.claim addresses).1 :: state.callers := by
  rcases state with ⟨resolver, callers, queue, workers, _, claimed, submitted, asked⟩
  rcases represents with ⟨rfl, rfl, rfl, rfl, rfl⟩
  exact ⟨_, .single (.claim addresses _ (.refl _)), ⟨rfl, rfl, rfl, rfl, rfl⟩, rfl⟩

theorem exists_steps_request (represents : Represents service requested state)
    (idle : state.callers.flatten = []) (addresses : List Address) :
    ∃ later, Steps (AnswersOf answers) state later ∧
      Represents (service.request answers addresses).1 (requested ++ addresses) later ∧
      later.callers.flatten = [] := by
  obtain ⟨next, claimed, nextRepresents, callers⟩ :=
    exists_steps_claim answers represents addresses
  obtain ⟨later, run, laterRepresents, remaining⟩ :=
    exists_steps_submitFirst answers _ nextRepresents
      (callers.trans (by rw [List.append_nil]))
  refine ⟨later, claimed.trans run, laterRepresents, ?_⟩
  rw [remaining]
  exact idle

/-- Completing a lookup takes nothing but that lookup from the queue. -/
theorem queue_complete_sublist (service : LookupService) (address : Address) :
    (service.complete answers address).1.queue.Sublist service.queue := by
  simp only [LookupService.complete]
  split
  · exact List.filter_sublist
  · exact .refl _

theorem exists_steps_complete (represents : Represents service requested state)
    (idle : state.callers.flatten = []) (distinct : service.queue.Nodup) (address : Address) :
    ∃ later, Steps (AnswersOf answers) state later ∧
      Represents (service.complete answers address).1 requested later ∧
      later.callers.flatten = [] := by
  simp only [LookupService.complete]
  split
  · next waiting =>
      rcases List.append_of_mem (List.contains_iff_mem.1 waiting) with ⟨before, after, parts⟩
      rcases state with ⟨resolver, callers, queue, workers, requested, claimed, submitted, asked⟩
      rcases represents with ⟨rfl, rfl, rfl, rfl, rfl⟩
      refine ⟨_, steps_lookUp rfl parts rfl, ?_, idle⟩
      rw [parts, Consistent.filter_ne_middle (parts ▸ distinct)]
      exact ⟨rfl, rfl, rfl, rfl, rfl⟩
  · exact ⟨state, .refl, represents, idle⟩

theorem exists_steps_completeEach (addresses : List Address)
    (represents : Represents service requested state) (idle : state.callers.flatten = [])
    (distinct : service.queue.Nodup) :
    ∃ later, Steps (AnswersOf answers) state later ∧
      Represents (LookupService.forEach (LookupService.complete answers) addresses service).1
        requested later ∧
      later.callers.flatten = [] := by
  induction addresses generalizing service state with
  | nil => exact ⟨state, .refl, represents, idle⟩
  | cons address rest ih =>
      obtain ⟨next, first, nextRepresents, nextIdle⟩ :=
        exists_steps_complete answers represents idle distinct address
      obtain ⟨later, more, laterRepresents, laterIdle⟩ :=
        ih nextRepresents nextIdle ((queue_complete_sublist answers service address).nodup distinct)
      exact ⟨later, first.trans more, laterRepresents, laterIdle⟩

/-- What a service does on an event, callers and workers do in some number of steps. -/
theorem exists_steps_handle (represents : Represents service requested state)
    (idle : state.callers.flatten = []) (distinct : service.queue.Nodup)
    (event : LookupService.Event) :
    ∃ later, Steps (AnswersOf answers) state later ∧
      Represents (service.handle answers event) (requested ++ event.requested) later ∧
      later.callers.flatten = [] := by
  cases event with
  | request addresses => exact exists_steps_request answers represents idle addresses
  | complete address =>
      rw [LookupService.Event.requested, List.append_nil]
      exact exists_steps_complete answers represents idle distinct address
  | completeAll =>
      rw [LookupService.Event.requested, List.append_nil]
      exact exists_steps_completeEach answers service.queue represents idle distinct

/-- Every session of a service is one of the interleavings. -/
theorem exists_steps_session (executor : Executor)
    (enabled : Bool) (events : List LookupService.Event) :
    ∃ state, Steps (AnswersOf answers) (.start enabled) state ∧
      Represents (LookupService.afterSession answers executor enabled events)
        (events.flatMap LookupService.Event.requested) state ∧
      state.callers.flatten = [] := by
  induction events using List.reverseRecOn with
  | nil => exact ⟨.start enabled, .refl, ⟨rfl, rfl, rfl, rfl, rfl⟩, rfl⟩
  | append_singleton events event ih =>
      rcases ih with ⟨state, run, represents, idle⟩
      have distinct := represents.queue ▸ (consistent_of_steps run).queue_nodup
      obtain ⟨later, more, laterRepresents, laterIdle⟩ :=
        exists_steps_handle answers represents idle distinct event
      refine ⟨later, run.trans more, ?_, laterIdle⟩
      rw [LookupService.afterSession, List.foldl_concat, List.flatMap_append,
        List.flatMap_singleton]
      exact laterRepresents

/-- When no lookup of a session waits any more, its outcome is recorded, whichever executor
was used and in whichever order the lookups were completed. -/
theorem isOutcome_afterSession (executor : Executor) (events : List LookupService.Event)
    (done : (LookupService.afterSession answers executor true events).queue = []) :
    (LookupService.afterSession answers executor true events).resolver.IsOutcome answers
      (events.flatMap LookupService.Event.requested) := by
  rcases exists_steps_session answers executor true events with ⟨state, run, represents, callers⟩
  rw [← represents.resolver, ← represents.requested]
  exact isOutcome_of_idle run ⟨callers, represents.queue.trans done, represents.workers⟩

end Lookup

end TrafficBoard
