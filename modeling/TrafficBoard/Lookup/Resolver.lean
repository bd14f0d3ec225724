import TrafficBoard.Connection
import TrafficBoard.Log

/-!
# Reverse lookups

A resolver remembers the hostnames found, the addresses whose lookup failed, and
the addresses whose lookup is still pending. It hands out each address once:
what is cached, failed or pending is not asked for again.

A lookup touches the resolver in steps that other work may come between:
addresses are claimed, later the outcome of each is settled, and after that the
address is released.
-/

namespace TrafficBoard

/-- How a reverse lookup ends: with a name, with a failure of the name service or
the network, or with an error that was not expected. -/
inductive LookupOutcome where
  | name (text : String)
  | failure (reason : String)
  | surprise (reason : String)
  deriving DecidableEq, Repr

/-- A hostname as it is remembered: without the dots at its end. -/
def canonicalName (text : String) : String :=
  String.ofList (Text.trimEnd (· == '.') text.toList)

/-- What is known about addresses, and what is being found out. -/
structure Resolver where
  enabled : Bool
  cache : Hostnames
  failed : List Address
  pending : List Address
  deriving Inhabited

namespace Resolver

/-- A resolver that knows nothing yet. -/
def start (enabled : Bool) : Resolver := ⟨enabled, .empty, [], []⟩

/-- Whether an address is neither cached nor failed nor pending. -/
def isUnknown (resolver : Resolver) (address : Address) : Bool :=
  !resolver.cache.contains address && !resolver.failed.contains address &&
    !resolver.pending.contains address

/-- The unknown ones among the given addresses, each once. -/
def unknown (resolver : Resolver) (addresses : List Address) : List Address :=
  addresses.eraseDups.filter resolver.isUnknown

/-- Claim the unknown ones among the given addresses: they are pending from now on,
and their lookups are for the caller to start. -/
def claim (resolver : Resolver) (addresses : List Address) : List Address × Resolver :=
  if resolver.enabled then
    let todo := resolver.unknown addresses
    (todo, { resolver with pending := resolver.pending ++ todo })
  else ([], resolver)

/-- Remember how the lookup of an address ended. -/
def settle (resolver : Resolver) (address : Address) : LookupOutcome → Resolver
  | .name text => { resolver with cache := resolver.cache.insert address (canonicalName text) }
  | _ =>
      if resolver.failed.contains address then resolver
      else { resolver with failed := resolver.failed ++ [address] }

/-- An address is no longer pending. -/
def release (resolver : Resolver) (address : Address) : Resolver :=
  { resolver with pending := resolver.pending.filter (· ≠ address) }

/-- What the end of a lookup tells the log. -/
def outcomeNotes (address : Address) : LookupOutcome → List LogNote
  | .name _ => []
  | .failure reason => [⟨.debug, "Reverse lookup failed for " ++ address.text ++ ": " ++ reason⟩]
  | .surprise reason =>
      [⟨.warning, "Unexpected reverse lookup error for " ++ address.text ++ ": " ++ reason⟩]

end Resolver

end TrafficBoard
