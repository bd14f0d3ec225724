import TrafficBoard.Lookup.Resolver

/-!
# The lookup service

The service joins a resolver to the executor that runs its lookups. An executor
either runs a lookup at once or puts it into a queue until it is told to go on.
An executor that the service made for itself is shut down with the service,
which drops the lookups that still wait.
-/

namespace TrafficBoard

/-- When an executor runs what it is given. -/
inductive Executor where
  | immediate
  | queued
  deriving DecidableEq, Repr

/-- A resolver with its executor, the lookups that wait, and the addresses that
the name service has been asked for. -/
structure LookupService where
  resolver : Resolver
  executor : Executor
  ownsExecutor : Bool
  queue : List Address
  asked : List Address

namespace LookupService

/-- A service that uses an executor of others. -/
def withExecutor (executor : Executor) (enabled : Bool) : LookupService :=
  ⟨.start enabled, executor, false, [], []⟩

/-- A service that makes its own executor, if it is enabled. -/
def withOwnExecutor (enabled : Bool) : LookupService :=
  ⟨.start enabled, .queued, enabled, [], []⟩

/-- The hostnames known so far. -/
def hostnames (service : LookupService) : Hostnames := service.resolver.cache

/-- The number of lookups that have not ended. -/
def pendingCount (service : LookupService) : Nat := service.resolver.pending.length

/-- Run a lookup to its end: ask the name service, settle the outcome, release the
address. -/
def run (answers : Address → LookupOutcome) (service : LookupService) (address : Address) :
    LookupService × List LogNote :=
  let outcome := answers address
  ({ service with
      asked := service.asked ++ [address]
      resolver := (service.resolver.settle address outcome).release address },
    Resolver.outcomeNotes address outcome)

/-- Give a claimed address to the executor. -/
def submit (answers : Address → LookupOutcome) (service : LookupService) (address : Address) :
    LookupService × List LogNote :=
  match service.executor with
  | .immediate => service.run answers address
  | .queued => ({ service with queue := service.queue ++ [address] }, [])

/-- Do something for each of a list of addresses and collect the log notes. -/
def forEach (act : LookupService → Address → LookupService × List LogNote) :
    List Address → LookupService → LookupService × List LogNote
  | [], service => (service, [])
  | address :: rest, service =>
      let (service, notes) := act service address
      let (service, more) := forEach act rest service
      (service, notes ++ more)

/-- Ask for the hostnames of addresses: those still unknown are claimed together and
then submitted one by one. -/
def request (answers : Address → LookupOutcome) (service : LookupService)
    (addresses : List Address) : LookupService × List LogNote :=
  let (todo, resolver) := service.resolver.claim addresses
  forEach (submit answers) todo { service with resolver := resolver }

/-- Ask for the hostnames of addresses while the executor may refuse lookups. The first
one that it does not accept ends the request with the error of the executor: that
address is reported, and it and those behind it are claimed but not submitted. -/
def requestUntilRefused (answers : Address → LookupOutcome) (accepts : Address → Bool)
    (service : LookupService) (addresses : List Address) :
    LookupService × List LogNote × Option Address :=
  let (todo, resolver) := service.resolver.claim addresses
  let (service, notes) :=
    forEach (submit answers) (todo.takeWhile accepts) { service with resolver := resolver }
  (service, notes, (todo.dropWhile accepts).head?)

/-- Run the queued lookup of an address; nothing happens if none is queued. -/
def complete (answers : Address → LookupOutcome) (service : LookupService) (address : Address) :
    LookupService × List LogNote :=
  if service.queue.contains address then
    { service with queue := service.queue.filter (· ≠ address) }.run answers address
  else (service, [])

/-- Run every queued lookup. -/
def completeAll (answers : Address → LookupOutcome) (service : LookupService) :
    LookupService × List LogNote :=
  forEach (complete answers) service.queue service

/-- Shut down an executor of the service's own. The lookups it has not started are
dropped; their addresses stay pending. -/
def shutdown (service : LookupService) : LookupService × List LogNote :=
  if service.ownsExecutor then
    ({ service with queue := [] }, [⟨.info, "DNS resolver executor shut down"⟩])
  else (service, [])

end LookupService

end TrafficBoard
