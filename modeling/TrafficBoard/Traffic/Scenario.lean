import TrafficBoard.Text.Quoted

/-!
# Scenarios

The kinds of traffic that can be generated, known by their names.
-/

namespace TrafficBoard

/-- A kind of generated traffic. -/
inductive Scenario where
  | steady
  | burst
  | idle
  deriving DecidableEq, Repr, Inhabited

namespace Scenario

/-- The name of a scenario. -/
def name : Scenario → String
  | .steady => "steady"
  | .burst => "burst"
  | .idle => "idle"

/-- Every scenario, in the order in which messages list them. -/
def all : List Scenario := [.steady, .burst, .idle]

/-- The scenario with a name. -/
def ofName? (name : String) : Option Scenario := all.find? (·.name = name)

@[simp] theorem ofName?_name (scenario : Scenario) : ofName? scenario.name = some scenario := by
  cases scenario <;> decide

/-- A name that no scenario has. -/
structure Unknown where
  name : String
  deriving DecidableEq, Repr

/-- What is said about an unknown name. -/
def Unknown.message (unknown : Unknown) : String :=
  "unknown scenario " ++ Text.quoted unknown.name ++ ", expected one of " ++
    ", ".intercalate (all.map Scenario.name)

/-- The scenario with a name, or the name that none has. -/
def ofName (name : String) : Except Unknown Scenario :=
  match ofName? name with
  | some scenario => .ok scenario
  | none => .error ⟨name⟩

end Scenario

end TrafficBoard
