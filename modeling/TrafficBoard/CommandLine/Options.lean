import TrafficBoard.Number.Literal
import TrafficBoard.Text.Pieces
import TrafficBoard.Traffic.Scenario

/-!
# Command line options

A switch is spelled with two dashes and its name, or with one dash and a
letter. A name may be cut short as long as it fits one switch only. A value
follows a switch in the next argument, after an equals sign, or, for a letter,
in the same argument. Letters of switches without a value may share a dash.
What looks like a negative number is never a switch. Two dashes in the argument
of a switch are no value: they take back what the switch asked for before.

Every argument is sorted before any switch takes effect, so an ambiguous name
is reported even where help is asked for first. The other errors come in the
order of the arguments.
-/

namespace TrafficBoard.CommandLine

/-- What can be switched on the command line. -/
inductive Switch where
  | help
  | refresh
  | noResolve
  | scenario
  deriving DecidableEq, Repr

namespace Switch

/-- Every switch, in the order in which messages list them. -/
def all : List Switch := [.help, .refresh, .noResolve, .scenario]

/-- The long spelling. -/
def long : Switch → String
  | .help => "--help"
  | .refresh => "--refresh"
  | .noResolve => "--no-resolve"
  | .scenario => "--scenario"

/-- The letter of the short spelling. -/
def letter : Switch → Char
  | .help => 'h'
  | .refresh => 'r'
  | .noResolve => 'n'
  | .scenario => 's'

/-- The short spelling. -/
def short (switch : Switch) : String := String.ofList ['-', switch.letter]

/-- Both spellings, in the order in which they are shown. -/
def spellings (switch : Switch) : List String :=
  match switch with
  | .help => [switch.short, switch.long]
  | _ => [switch.long, switch.short]

/-- Whether a value belongs to the switch. -/
def takesValue : Switch → Bool
  | .refresh | .scenario => true
  | .help | .noResolve => false

/-- The name of a switch in messages. -/
def label (switch : Switch) : String := "/".intercalate switch.spellings

/-- The switch with a letter. -/
def ofLetter? (letter : Char) : Option Switch := all.find? (·.letter = letter)

/-- The switches whose long spelling starts with a text. -/
def startingWith (text : List Char) : List Switch :=
  all.filter fun switch => text.isPrefixOf switch.long.toList

end Switch

/-- Why the arguments are not understood. -/
inductive UsageError where
  | ambiguous (given : String) (matching : List Switch)
  | ignoredValue (switch : Switch) (value : String)
  | missingValue (switch : Switch)
  | badDecimal (switch : Switch) (value : String)
  | badChoice (switch : Switch) (value : String)
  | unrecognized (arguments : List String)
  | notPositive
  deriving DecidableEq, Repr

/-- What the error says. -/
def UsageError.message : UsageError → String
  | .ambiguous given matching =>
      "ambiguous option: " ++ given ++ " could match " ++
        ", ".intercalate (matching.map Switch.long)
  | .ignoredValue switch value =>
      "argument " ++ switch.label ++ ": ignored explicit argument " ++ Text.quoted value
  | .missingValue switch => "argument " ++ switch.label ++ ": expected one argument"
  | .badDecimal switch value =>
      "argument " ++ switch.label ++ ": invalid float value: " ++ Text.quoted value
  | .badChoice switch value =>
      "argument " ++ switch.label ++ ": invalid choice: " ++ Text.quoted value ++
        " (choose from " ++
        ", ".intercalate (Scenario.all.map fun scenario => Text.quoted scenario.name) ++ ")"
  | .unrecognized arguments => "unrecognized arguments: " ++ " ".intercalate arguments
  | .notPositive => "--refresh must be greater than 0"

/-! ## Sorting arguments -/

/-- What an argument is. A switch may have a text attached to it: what follows an
equals sign, or what is right behind the letter. -/
inductive Argument where
  | plain (text : String)
  | divider
  | switch (switch : Switch) (isLong : Bool) (attached : Option (List Char))
  | unknown (text : String)
  deriving DecidableEq, Repr

/-- Whether a text looks like a negative number: a dash, digits, and possibly a point
with more digits behind it. A line end may follow. -/
def isNegativeNumber (text : List Char) : Bool :=
  let isDigit := fun c => (Text.decimalValue? c).isSome
  match text with
  | '-' :: rest =>
      let digits := if rest.getLast? = some '\n' then rest.dropLast else rest
      match digits.dropWhile isDigit with
      | [] => !digits.isEmpty
      | '.' :: fraction => !fraction.isEmpty && fraction.all isDigit
      | _ => false
  | _ => false

/-- What an argument is that spells no switch in full. -/
def sortOther (text : String) : Argument :=
  if isNegativeNumber text.toList || text.toList.contains ' ' then .plain text else .unknown text

/-- What a switch spelled in full comes with. -/
def sortFull? (spelling : List Char) (attached : Option (List Char)) : Option Argument :=
  (Switch.all.find? fun switch => (switch.spellings.map String.toList).contains spelling).map
    fun switch => .switch switch (spelling = switch.long.toList) attached

/-- Sort an argument that starts with a dash and is longer than that. -/
def sortDashed (text : String) : Except UsageError Argument :=
  let characters := text.toList
  let divided := Text.divide? ['='] characters
  let full := match divided with
    | some (spelling, value) => sortFull? spelling (some value)
    | none => none
  match full with
  | some argument => .ok argument
  | none =>
      match characters with
      | '-' :: '-' :: _ =>
          let name := match divided with
            | some (name, _) => name
            | none => characters
          match Switch.startingWith name with
          | [] => .ok (sortOther text)
          | [switch] => .ok (.switch switch true (divided.map (·.2)))
          | matching => .error (.ambiguous text matching)
      | '-' :: letter :: rest =>
          match Switch.ofLetter? letter with
          | some switch => .ok (.switch switch false (some rest))
          | none => .ok (sortOther text)
      | _ => .ok (.plain text)

/-- Sort an argument that no divider comes before. -/
def sortArgument (text : String) : Except UsageError Argument :=
  match text.toList with
  | '-' :: _ :: _ =>
      match sortFull? text.toList none with
      | some argument => .ok argument
      | none => sortDashed text
  | _ => .ok (.plain text)

/-- Sort the arguments. Behind a divider all are plain. -/
def sortArguments : List String → Except UsageError (List Argument)
  | [] => .ok []
  | text :: rest =>
      if text = "--" then .ok (.divider :: rest.map .plain)
      else do
        let first ← sortArgument text
        let others ← sortArguments rest
        return first :: others

/-! ## Switches in one argument -/

/-- How the switches of one argument end: with a value, or with a switch that may want
the next argument. -/
inductive LastSwitch where
  | value (switch : Switch) (value : List Char)
  | bare (switch : Switch)
  deriving DecidableEq, Repr

/-- The switches of an argument: those without a value, and the last one. -/
structure Bundle where
  before : List Switch
  last : LastSwitch
  deriving DecidableEq, Repr

/-- The switches of an argument that starts with a switch and the text attached to it. -/
def unbundle (switch : Switch) (isLong : Bool) (text : List Char) : Except UsageError Bundle :=
  if switch.takesValue then .ok ⟨[], .value switch text⟩
  else
    match isLong, text with
    | false, letter :: rest =>
        match Switch.ofLetter? letter, rest with
        | none, _ => .error (.ignoredValue switch (String.ofList text))
        | some next, [] => .ok ⟨[switch], .bare next⟩
        | some next, _ :: _ =>
            (unbundle next false rest).map fun bundle =>
              { bundle with before := switch :: bundle.before }
    | _, _ => .error (.ignoredValue switch (String.ofList text))

/-- The switches of an argument, given the one that it starts with. -/
def bundle (switch : Switch) (isLong : Bool) : Option (List Char) → Except UsageError Bundle
  | none => .ok ⟨[], .bare switch⟩
  | some text => unbundle switch isLong text

/-! ## Taking effect -/

/-- What a part of the arguments does: it turns a switch on, gives a switch a value or
takes its value back, belongs to no switch, or cannot be understood. -/
inductive Effect where
  | turnOn (switch : Switch)
  | give (switch : Switch) (value : String)
  | takeBack (switch : Switch)
  | stray (text : String)
  | fail (error : UsageError)
  deriving DecidableEq, Repr

/-- What the text attached to a switch does. -/
def Effect.ofAttached (switch : Switch) (text : List Char) : Effect :=
  if text = ['-', '-'] then .takeBack switch else .give switch (String.ofList text)

/-- What the arguments do, from left to right. A switch whose value is missing keeps
the switches before it in the same argument from taking effect. -/
def effects : List Argument → List Effect
  | [] => []
  | .plain text :: rest => .stray text :: effects rest
  | .unknown text :: rest => .stray text :: effects rest
  | .divider :: rest => .stray "--" :: effects rest
  | .switch first isLong attached :: rest =>
      match bundle first isLong attached with
      | .error error => [.fail error]
      | .ok ⟨before, .value switch text⟩ =>
          before.map .turnOn ++ .ofAttached switch text :: effects rest
      | .ok ⟨before, .bare switch⟩ =>
          if switch.takesValue then
            match rest with
            | .plain value :: rest => before.map .turnOn ++ .give switch value :: effects rest
            | _ => [.fail (.missingValue switch)]
          else before.map .turnOn ++ .turnOn switch :: effects rest

/-- What is asked of the interval: a number of seconds, or nothing after all. -/
inductive IntervalRequest where
  | seconds (value : Double)
  | takenBack
  deriving DecidableEq, Repr

/-- What the arguments have asked for so far. -/
structure Requests where
  interval : Option IntervalRequest
  noResolve : Bool
  scenario : Option Scenario
  deriving DecidableEq, Repr

/-- What the program runs with on behalf of its arguments. -/
structure Options where
  refresh : Option Double
  noResolve : Bool
  scenario : Option Scenario
  deriving DecidableEq, Repr

/-- Why the arguments are not options to run with: help is asked for, they are not
understood, or the interval was taken back and there is none to check. -/
inductive Stop where
  | help
  | error (error : UsageError)
  | noInterval
  deriving DecidableEq, Repr

namespace Requests

/-- Nothing is asked for. -/
def empty : Requests := ⟨none, false, none⟩

/-- Let a switch without a value take effect. -/
def turnOn (requests : Requests) : Switch → Except Stop Requests
  | .help => .error .help
  | .noResolve => .ok { requests with noResolve := true }
  | .refresh | .scenario => .ok requests

/-- Let a switch with its value take effect. -/
def give (requests : Requests) (switch : Switch) (value : String) : Except Stop Requests :=
  match switch with
  | .refresh =>
      match Literal.anyDecimal? value with
      | some seconds => .ok { requests with interval := some (.seconds seconds) }
      | none => .error (.error (.badDecimal switch value))
  | .scenario =>
      match Scenario.ofName? value with
      | some scenario => .ok { requests with scenario := some scenario }
      | none => .error (.error (.badChoice switch value))
  | .help | .noResolve => .ok requests

/-- Take back what a switch asked for. -/
def takeBack (requests : Requests) : Switch → Requests
  | .refresh => { requests with interval := some .takenBack }
  | .scenario => { requests with scenario := none }
  | .help | .noResolve => requests

/-- Let what the arguments do take effect, up to the first failure. -/
def applyEffects (requests : Requests) : List Effect → Except Stop Requests
  | [] => .ok requests
  | .turnOn switch :: rest => do (← requests.turnOn switch).applyEffects rest
  | .give switch value :: rest => do (← requests.give switch value).applyEffects rest
  | .takeBack switch :: rest => (requests.takeBack switch).applyEffects rest
  | .stray _ :: rest => requests.applyEffects rest
  | .fail error :: _ => .error (.error error)

/-- The options asked for. The interval must be above zero; one that is not a number is
let through. -/
def check (requests : Requests) : Except Stop Options :=
  match requests.interval with
  | none => .ok ⟨none, requests.noResolve, requests.scenario⟩
  | some .takenBack => .error .noInterval
  | some (.seconds value) =>
      if value.isNonpositive then .error (.error .notPositive)
      else .ok ⟨some value, requests.noResolve, requests.scenario⟩

end Requests

/-- The texts that belong to no switch. -/
def strays (effects : List Effect) : List String :=
  effects.filterMap fun effect =>
    match effect with
    | .stray text => some text
    | _ => none

/-- The options that arguments ask for. -/
def parse (arguments : List String) : Except Stop Options := do
  let effects := effects (← (sortArguments arguments).mapError .error)
  let requests ← Requests.empty.applyEffects effects
  if (strays effects).isEmpty then requests.check
  else .error (.error (.unrecognized (strays effects)))

end TrafficBoard.CommandLine
