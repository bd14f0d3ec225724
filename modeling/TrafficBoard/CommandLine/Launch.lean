import TrafficBoard.CommandLine.Help
import TrafficBoard.Dashboard.Loop
import TrafficBoard.Settings.Report

/-!
# Launching the dashboard

A launch reads the arguments, puts what they ask for into the environment, checks
that the packages it needs are there, and loads the settings. It ends with a
plan to run, or with a text for the user and an exit code. The environment keeps
what the arguments put there even where a later step fails.

Two things make the launch break down: an interval that was taken back is compared
all the same, and of the parts that are loaded on the way only the required packages
are looked for beforehand.
-/

namespace TrafficBoard.CommandLine

/-- The packages that must be installed. -/
def requiredPackages : List String := ["rich", "dns", "pydantic_settings"]

/-- The points of a launch at which parts are loaded: before the arguments are read, for a
note on usage or for the help that they ask for, before the settings are, and before
the dashboard starts. -/
inductive Stage where
  | arguments
  | usage
  | help
  | settings
  | dashboard
  deriving DecidableEq, Repr

/-- The parts that are loaded at a point of a launch, in order. -/
def Stage.parts : Stage → List String
  | .arguments => ["argparse", "logging", "os", "locale", "errno", "shutil"]
  | .usage => ["re"]
  | .help => ["re", "textwrap"]
  | .settings => ["pydantic", "config", "settings_model", "typing", "ui_theme", "dataclasses"]
  | .dashboard => ["main"]

/-- The first part for a point of a launch that is not installed. -/
def Stage.firstMissing? (missing : List String) (stage : Stage) : Option String :=
  stage.parts.find? missing.contains

/-- What breaks a launch down. -/
inductive Breakdown where
  | noInterval
  | noPart (name : String)
  deriving DecidableEq, Repr

/-- What is said when a launch breaks down. -/
def Breakdown.message : Breakdown → String
  | .noInterval => "'<=' not supported between instances of 'list' and 'int'"
  | .noPart name => name

/-- Why the program ends before the dashboard starts. -/
inductive Ending where
  | helped
  | misused (error : UsageError)
  | brokenDown (cause : Breakdown)
  | packagesMissing (names : List String)
  | settingsFaulty (problems : List SettingProblem)
  deriving DecidableEq, Repr

/-- The log that the program writes. -/
structure LogPlan where
  directory : String
  file : String
  truncate : Bool
  threshold : LogThreshold
  deriving DecidableEq, Repr

/-- What the program runs with. -/
structure Launch where
  settings : Settings
  log : LogPlan
  deriving Repr

/-- What came of a launch, and the environment afterwards. -/
structure LaunchResult where
  outcome : Except Ending Launch
  environment : Keyed String String

/-! ## Texts for the user -/

/-- The number of columns of the terminal, if the environment gives one. -/
def terminalColumns (environment : Keyed String String) : Int :=
  match (environment.find? "COLUMNS").bind Literal.anyWhole? with
  | some columns => if 0 < columns then columns else 80
  | none => 80

namespace Ending

/-- The exit code. -/
def exitCode : Ending → Nat
  | .helped => 0
  | .misused _ => 2
  | .brokenDown _ => 1
  | .packagesMissing _ => 1
  | .settingsFaulty _ => 2

/-- What is said about missing packages. -/
def missingText (names : List String) : String :=
  linesText <|
    ["Missing required Python packages:"] ++ names.map ("  - " ++ ·) ++
      ["", "Install them with:", "  pip install -e ."]

/-- What goes to the standard output. -/
def output (environment : Keyed String String) : Ending → String
  | .helped => helpText (terminalColumns environment)
  | .misused _ => ""
  | .brokenDown _ => ""
  | .packagesMissing names => missingText names
  | .settingsFaulty problems =>
      linesText ("Invalid configuration:" :: SettingProblem.report problems)

/-- What goes to the error output. -/
def errorOutput (environment : Keyed String String) : Ending → String
  | .misused error =>
      usageText (terminalColumns environment) ++
        linesText [programName ++ ": error: " ++ error.message]
  | .brokenDown cause => linesText [cause.message]
  | _ => ""

/-- How a launch ends that is about to end at a point where parts are loaded. -/
def atStage (missing : List String) (stage : Stage) (ending : Ending) : Ending :=
  match stage.firstMissing? missing with
  | some name => .brokenDown (.noPart name)
  | none => ending

/-- The end of a program that is stopped by its arguments. -/
def ofStop (missing : List String) : Stop → Ending
  | .help => atStage missing .help .helped
  | .error error => atStage missing .usage (.misused error)
  | .noInterval => .brokenDown .noInterval

end Ending

/-! ## Launching -/

/-- The environment with what the options ask for. -/
def Options.applyTo (options : Options) (environment : Keyed String String) :
    Keyed String String :=
  let environment := match options.refresh with
    | some seconds => environment.insert "REFRESH_INTERVAL" seconds.text
    | none => environment
  let environment :=
    if options.noResolve then environment.insert "RESOLVE_HOSTNAMES" "false" else environment
  match options.scenario with
  | some scenario => environment.insert "DEMO_SCENARIO" scenario.name
  | none => environment

/-- What the settings say about the log. -/
def LogPlan.ofSettings (settings : Settings) : LogPlan where
  directory := settings.logDirectory
  file := settings.logFile
  truncate := settings.truncateLog
  threshold := .ofName settings.logLevel

/-- What the settings ask the dashboard to do. -/
def Launch.plan (launch : Launch) : LoopPlan where
  scenario := launch.settings.scenario
  interval := launch.settings.refreshInterval
  resolveHostnames := launch.settings.resolveHostnames

/-- Load the parts for a point of the launch. The first one that is missing breaks it
down. -/
def loadParts (missing : List String) (stage : Stage) : Except Ending Unit :=
  match stage.firstMissing? missing with
  | some name => .error (.brokenDown (.noPart name))
  | none => .ok ()

/-- Look for the required packages. -/
def checkPackages (missing : List String) : Except Ending Unit :=
  match requiredPackages.filter missing.contains with
  | [] => .ok ()
  | names => .error (.packagesMissing names)

/-- Load the settings. -/
def loadSettings (sources : Settings.Sources) : Except Ending Settings :=
  match Settings.load sources with
  | .valid settings => .ok settings
  | .faulty problems => .error (.settingsFaulty problems)

/-- Check the packages, and load the settings and the dashboard. -/
def prepare (missing : List String) (sources : Settings.Sources) : Except Ending Launch := do
  checkPackages missing
  loadParts missing .settings
  let settings ← loadSettings sources
  loadParts missing .dashboard
  return ⟨settings, .ofSettings settings⟩

/-- Launch the program with arguments, an environment, the text of a file of environment
variables and the parts and packages that are not installed, under an account that may have a
home directory. -/
def launch (arguments : List String) (environment : Keyed String String) (file : Option String)
    (missing : List String) (accountHome : Option String := none) : LaunchResult :=
  match loadParts missing .arguments with
  | .error ending => ⟨.error ending, environment⟩
  | .ok () =>
      match parse arguments with
      | .error stop => ⟨.error (.ofStop missing stop), environment⟩
      | .ok options =>
          let environment := options.applyTo environment
          ⟨prepare missing (.ofTexts environment file accountHome), environment⟩

end TrafficBoard.CommandLine
