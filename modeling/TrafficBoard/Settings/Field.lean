import TrafficBoard.Number.Literal
import TrafficBoard.Traffic.Scenario

/-!
# Setting texts

Each setting is given as a text, whose form depends on the kind of the setting.
A text that does not have the form, or whose value is out of bounds, is a
problem with a cause.
-/

namespace TrafficBoard

/-- Why a text is not the value of a setting. -/
inductive SettingFault where
  | notADecimal
  | notPositive
  | notAnInteger
  | tooManyDigits
  | belowOne
  | notAFlag
  | notAScenario
  deriving DecidableEq, Repr

namespace SettingFault

/-- The short name of a fault. -/
def label : SettingFault → String
  | .notADecimal => "float_parsing"
  | .notPositive => "greater_than"
  | .notAnInteger => "int_parsing"
  | .tooManyDigits => "int_parsing_size"
  | .belowOne => "greater_than_equal"
  | .notAFlag => "bool_parsing"
  | .notAScenario => "literal_error"

/-- The scenarios that a setting may name. -/
def scenarioChoices : String :=
  match Scenario.all.map fun scenario => Text.quoted scenario.name with
  | [first, second, third] => first ++ ", " ++ second ++ " or " ++ third
  | names => ", ".intercalate names

/-- What the fault says. -/
def message : SettingFault → String
  | .notADecimal => "Input should be a valid number, unable to parse string as a number"
  | .notPositive => "Input should be greater than 0"
  | .notAnInteger => "Input should be a valid integer, unable to parse string as an integer"
  | .tooManyDigits => "Unable to parse input string as an integer, exceeded maximum size"
  | .belowOne => "Input should be greater than or equal to 1"
  | .notAFlag => "Input should be a valid boolean, unable to interpret input"
  | .notAScenario => "Input should be " ++ scenarioChoices

end SettingFault

namespace SettingText

/-- A positive decimal. -/
def positiveDecimal (text : String) : Except SettingFault Double :=
  match Literal.settingDecimal? text.toList with
  | none => .error .notADecimal
  | some value => if value.isPositive then .ok value else .error .notPositive

/-- An integer that is at least one. -/
def atLeastOne (text : String) : Except SettingFault Int :=
  match Literal.settingInteger text.toList with
  | .error .malformed => .error .notAnInteger
  | .error .tooLong => .error .tooManyDigits
  | .ok value => if 1 ≤ value then .ok value else .error .belowOne

/-- The words for true and for false, without regard to case. -/
def trueWords : List String := ["true", "t", "yes", "y", "on", "1"]

/-- The words for false. -/
def falseWords : List String := ["false", "f", "no", "n", "off", "0"]

/-- A word for true or false, with no blanks around it. -/
def flag (text : String) : Except SettingFault Bool :=
  let word := String.ofList (text.toList.map Char.toLower)
  if word ∈ trueWords then .ok true
  else if word ∈ falseWords then .ok false
  else .error .notAFlag

/-- The exact name of a scenario. -/
def scenario (text : String) : Except SettingFault Scenario :=
  match Scenario.ofName? text with
  | some scenario => .ok scenario
  | none => .error .notAScenario

/-- Any text. -/
def plain (text : String) : Except SettingFault String := .ok text

end SettingText

end TrafficBoard
