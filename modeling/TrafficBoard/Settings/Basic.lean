import TrafficBoard.Settings.Field
import TrafficBoard.Settings.EnvFile

/-!
# Settings

Settings come from the environment and, where it does not set them, from a file
of environment variables; what neither sets has a default. Loading either gives
every setting or lists a problem for each setting whose text is faulty, in the
order in which the settings are declared.
-/

namespace TrafficBoard

/-- Everything that can be configured. -/
structure Settings where
  version : String
  refreshInterval : Double
  resolveHostnames : Bool
  dnsTimeout : Double
  dnsWorkers : Int
  scenario : Scenario
  theme : String
  heightBreakpoint : Int
  widthBreakpoint : Int
  wideBreakpoint : Int
  logDirectory : String
  logFile : String
  logLevel : String
  truncateLog : Bool
  deriving Repr

/-- A setting with a faulty text. -/
structure SettingProblem where
  name : String
  fault : SettingFault
  input : String
  deriving DecidableEq, Repr

/-- A value, or the problems that stand in its way. -/
inductive Checked (α : Type) where
  | valid (value : α)
  | faulty (problems : List SettingProblem)
  deriving Repr

namespace Checked

/-- The problems found. -/
def problems {α : Type} : Checked α → List SettingProblem
  | .valid _ => []
  | .faulty problems => problems

/-- A function applied to its argument, with the problems of both. -/
def apply {α β : Type} (function : Checked (α → β)) (argument : Checked α) : Checked β :=
  match function, argument with
  | .valid function, .valid argument => .valid (function argument)
  | .valid _, .faulty problems => .faulty problems
  | .faulty problems, argument => .faulty (problems ++ argument.problems)

@[simp] theorem problems_apply {α β : Type} (function : Checked (α → β)) (argument : Checked α) :
    (function.apply argument).problems = function.problems ++ argument.problems := by
  cases function <;> cases argument <;> simp [apply, problems]

end Checked

namespace Settings

/-- Where the texts of the settings come from, and the home directory of the account that
the program runs under, if the account is known. -/
structure Sources where
  environment : Keyed String String
  file : Keyed String (Option String)
  accountHome : Option String

/-- The sources of an environment and, if there is one, the text of a file. Values in
the file may refer to the environment. -/
def Sources.ofTexts (environment : Keyed String String) (file : Option String)
    (accountHome : Option String := none) : Sources where
  environment := environment
  accountHome := accountHome
  file :=
    match file with
    | some text => EnvFile.parse text environment
    | none => .empty

/-- The text of a setting: that of the environment, otherwise that of the file. -/
def Sources.text? (sources : Sources) (name : String) : Option String :=
  match sources.environment.find? name with
  | some text => some text
  | none => (sources.file.find? name).join

/-- A setting read from its text, or its default. -/
def Sources.read {α : Type} (sources : Sources) (name : String)
    (form : String → Except SettingFault α) (default : α) : Checked α :=
  match sources.text? name with
  | none => .valid default
  | some text =>
      match form text with
      | .ok value => .valid value
      | .error fault => .faulty [⟨name, fault, text⟩]

/-- The names of the settings in the order in which they are declared. -/
def names : List String := [
  "VERSION", "REFRESH_INTERVAL", "RESOLVE_HOSTNAMES", "DNS_TIMEOUT", "DNS_WORKERS",
  "DEMO_SCENARIO", "UI_THEME", "UI_HEIGHT_BREAKPOINT", "UI_WIDTH_BREAKPOINT",
  "UI_WIDE_BREAKPOINT", "LOG_DIR", "LOG_FILE", "LOG_LEVEL", "LOG_TRUNCATE_ON_START"]

/-- The home directory: that of the environment, otherwise that of the account. -/
def Sources.home? (sources : Sources) : Option String :=
  (sources.environment.find? "HOME").or sources.accountHome

/-- The directory of the log where none is set. It lies in the home directory, whose slashes
at the end are dropped; without a home directory the tilde stays. -/
def Sources.defaultLogDirectory (sources : Sources) : String :=
  match sources.home? with
  | some home => String.ofList (Text.trimEnd (· == '/') home.toList) ++ "/.bandview"
  | none => "~/.bandview"

/-- The settings of the given sources, or every problem with them. -/
def load (sources : Sources) : Checked Settings :=
  let directory := sources.defaultLogDirectory
  Checked.valid Settings.mk
    |>.apply (sources.read "VERSION" SettingText.plain "0.12.0")
    |>.apply (sources.read "REFRESH_INTERVAL" SettingText.positiveDecimal (Double.ofInt 1))
    |>.apply (sources.read "RESOLVE_HOSTNAMES" SettingText.flag true)
    |>.apply (sources.read "DNS_TIMEOUT" SettingText.positiveDecimal (Double.ofInt 2))
    |>.apply (sources.read "DNS_WORKERS" SettingText.atLeastOne 4)
    |>.apply (sources.read "DEMO_SCENARIO" SettingText.scenario .steady)
    |>.apply (sources.read "UI_THEME" SettingText.plain "orange")
    |>.apply (sources.read "UI_HEIGHT_BREAKPOINT" SettingText.atLeastOne 30)
    |>.apply (sources.read "UI_WIDTH_BREAKPOINT" SettingText.atLeastOne 120)
    |>.apply (sources.read "UI_WIDE_BREAKPOINT" SettingText.atLeastOne 150)
    |>.apply (sources.read "LOG_DIR" SettingText.plain directory)
    |>.apply (sources.read "LOG_FILE" SettingText.plain (directory ++ "/bandview.log"))
    |>.apply (sources.read "LOG_LEVEL" SettingText.plain "INFO")
    |>.apply (sources.read "LOG_TRUNCATE_ON_START" SettingText.flag true)

end Settings

end TrafficBoard
