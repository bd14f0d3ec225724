import Mathlib.Data.List.Forall2
import Mathlib.Data.List.Nodup
import TrafficBoard.Settings.Basic

/-!
# Loading is complete or lists every problem

A setting is decided by its effective text: that of the environment if it sets the
name, otherwise that of the file.  Whether a text is acceptable depends on the form of
the setting alone, so a declaration is a name with a form.

Loading applies a constructor to one read after another.  It gives settings when every
read gives a value, and its problems are those of the reads in order.  Both are turned
into statements about the list of declarations, which mention neither the constructor
nor the reads.
-/

namespace TrafficBoard

/-- A number above zero.  A NaN is not. -/
def Double.IsAboveZero : Double → Prop
  | .finite negative units => negative = false ∧ 0 < units
  | .infinite negative => negative = false
  | .nan => False

theorem Double.isPositive_iff (value : Double) : value.isPositive ↔ value.IsAboveZero := by
  cases value <;> simp [Double.isPositive, Double.exceeds, Double.IsAboveZero]

instance (value : Double) : Decidable value.IsAboveZero := decidable_of_iff _ value.isPositive_iff

namespace Checked

variable {α β : Type}

theorem apply_eq_valid_iff {function : Checked (α → β)} {argument : Checked α} {value : β} :
    function.apply argument = .valid value ↔
      ∃ image input, function = .valid image ∧ argument = .valid input ∧ image input = value := by
  cases function <;> cases argument <;> simp [apply]

/-- Where there is no value, there is a problem. -/
def IsExplained (checked : Checked α) : Prop := checked ≠ .faulty []

theorem isExplained_valid (value : α) : (Checked.valid value).IsExplained := by simp [IsExplained]

theorem IsExplained.apply {function : Checked (α → β)} {argument : Checked α}
    (explained : function.IsExplained) (explainedArgument : argument.IsExplained) :
    (function.apply argument).IsExplained := by
  cases function <;> cases argument <;> simp_all [IsExplained, Checked.apply]

theorem IsExplained.problems_eq_nil_iff {checked : Checked α} (explained : checked.IsExplained) :
    checked.problems = [] ↔ ∃ value, checked = .valid value := by
  cases checked with
  | valid value => simp [problems]
  | faulty problems =>
      have listed : problems ≠ [] := fun none => explained (none ▸ rfl)
      simp [Checked.problems, listed]

end Checked

namespace Settings

/-! ## Forms and declarations -/

/-- The forms that the texts of settings have. -/
inductive Form where
  | anyText
  | positiveDecimal
  | flag
  | atLeastOne
  | scenario
  deriving DecidableEq, Repr

/-- A setting as it is declared. -/
structure Declaration where
  name : String
  form : Form
  deriving DecidableEq, Repr

/-- Every setting in the order of declaration. -/
def declarations : List Declaration := [
  ⟨"VERSION", .anyText⟩,
  ⟨"REFRESH_INTERVAL", .positiveDecimal⟩,
  ⟨"RESOLVE_HOSTNAMES", .flag⟩,
  ⟨"DNS_TIMEOUT", .positiveDecimal⟩,
  ⟨"DNS_WORKERS", .atLeastOne⟩,
  ⟨"DEMO_SCENARIO", .scenario⟩,
  ⟨"UI_THEME", .anyText⟩,
  ⟨"UI_HEIGHT_BREAKPOINT", .atLeastOne⟩,
  ⟨"UI_WIDTH_BREAKPOINT", .atLeastOne⟩,
  ⟨"UI_WIDE_BREAKPOINT", .atLeastOne⟩,
  ⟨"LOG_DIR", .anyText⟩,
  ⟨"LOG_FILE", .anyText⟩,
  ⟨"LOG_LEVEL", .anyText⟩,
  ⟨"LOG_TRUNCATE_ON_START", .flag⟩]

theorem nodup_declarations : (declarations.map Declaration.name).Nodup := by decide

/-- The texts that have a form. -/
def Form.Accepts : Form → String → Prop
  | .anyText, _ => True
  | .positiveDecimal, text =>
      ∃ value, Literal.settingDecimal? text.toList = some value ∧ value.IsAboveZero
  | .flag, text =>
      String.ofList (text.toList.map Char.toLower) ∈ SettingText.trueWords ++ SettingText.falseWords
  | .atLeastOne, text => ∃ value, Literal.settingInteger text.toList = .ok value ∧ 1 ≤ value
  | .scenario, text => ∃ scenario : Scenario, text = scenario.name

/-- The fault that was found instead of a value. -/
def faultOf {α : Type} : Except SettingFault α → Option SettingFault
  | .ok _ => none
  | .error fault => some fault

/-- What is wrong with a text that should have a form. -/
def Form.fault? : Form → String → Option SettingFault
  | .anyText, text => faultOf (SettingText.plain text)
  | .positiveDecimal, text => faultOf (SettingText.positiveDecimal text)
  | .flag, text => faultOf (SettingText.flag text)
  | .atLeastOne, text => faultOf (SettingText.atLeastOne text)
  | .scenario, text => faultOf (SettingText.scenario text)

theorem isAboveZero_of_positiveDecimal {text : String} {value : Double}
    (parsed : SettingText.positiveDecimal text = .ok value) : value.IsAboveZero := by
  simp only [SettingText.positiveDecimal] at parsed
  split at parsed
  · cases parsed
  · split at parsed
    · next positive =>
        obtain rfl := Except.ok.inj parsed
        exact (Double.isPositive_iff _).1 positive
    · cases parsed

theorem one_le_of_atLeastOne {text : String} {value : Int}
    (parsed : SettingText.atLeastOne text = .ok value) : 1 ≤ value := by
  simp only [SettingText.atLeastOne] at parsed
  split at parsed
  · cases parsed
  · cases parsed
  · split at parsed
    · next large => exact Except.ok.inj parsed ▸ large
    · cases parsed

theorem faultOf_positiveDecimal_eq_none_iff (text : String) :
    faultOf (SettingText.positiveDecimal text) = none ↔ Form.positiveDecimal.Accepts text := by
  simp only [SettingText.positiveDecimal, Form.Accepts, ← Double.isPositive_iff]
  cases Literal.settingDecimal? text.toList with
  | none => simp [faultOf]
  | some value => cases positive : value.isPositive <;> simp [positive, faultOf]

theorem faultOf_atLeastOne_eq_none_iff (text : String) :
    faultOf (SettingText.atLeastOne text) = none ↔ Form.atLeastOne.Accepts text := by
  simp only [SettingText.atLeastOne, Form.Accepts]
  rcases Literal.settingInteger text.toList with (_ | _) | value
  · simp [faultOf]
  · simp [faultOf]
  · by_cases large : 1 ≤ value <;> simp [large, faultOf]

theorem faultOf_flag_eq_none_iff (text : String) :
    faultOf (SettingText.flag text) = none ↔ Form.flag.Accepts text := by
  simp only [SettingText.flag, Form.Accepts, List.mem_append]
  split
  · next isTrue => simp [faultOf, isTrue]
  · next notTrue =>
      split
      · next isFalse => simp [faultOf, isFalse]
      · next notFalse => simp [faultOf, notTrue, notFalse]

theorem faultOf_scenario_eq_none_iff (text : String) :
    faultOf (SettingText.scenario text) = none ↔ Form.scenario.Accepts text := by
  simp only [SettingText.scenario, Form.Accepts]
  cases found : Scenario.ofName? text with
  | some scenario =>
      have named := List.find?_some found
      simp only [decide_eq_true_eq] at named
      simpa [faultOf] using ⟨scenario, named.symm⟩
  | none =>
      simp only [faultOf, reduceCtorEq, false_iff, not_exists]
      rintro scenario rfl
      simp at found

/-- A text has a form when nothing is wrong with it. -/
theorem Form.fault?_eq_none_iff (form : Form) (text : String) :
    form.fault? text = none ↔ form.Accepts text := by
  cases form with
  | anyText => simp [Form.fault?, Form.Accepts, SettingText.plain, faultOf]
  | positiveDecimal => exact faultOf_positiveDecimal_eq_none_iff text
  | flag => exact faultOf_flag_eq_none_iff text
  | atLeastOne => exact faultOf_atLeastOne_eq_none_iff text
  | scenario => exact faultOf_scenario_eq_none_iff text

/-! ## Effective texts -/

namespace Sources

/-- The effective text of a name: that of the environment, or that of the file where the
environment does not set the name. -/
inductive Sets (sources : Sources) (name : String) : String → Prop where
  | environment {text : String} :
      sources.environment.find? name = some text → Sets sources name text
  | file {text : String} :
      sources.environment.find? name = none → sources.file.find? name = some (some text) →
      Sets sources name text

theorem sets_iff {sources : Sources} {name text : String} :
    sources.Sets name text ↔ sources.text? name = some text := by
  constructor
  · rintro (found | ⟨absent, found⟩) <;> simp [text?, *]
  · intro found
    simp only [text?] at found
    split at found
    · next shown => exact .environment (shown.trans found)
    · next absent => exact .file absent (Option.join_eq_some_iff.1 found)

/-- What is wrong with the effective text of a setting. -/
def problem? (sources : Sources) (declaration : Declaration) : Option SettingProblem :=
  (sources.text? declaration.name).bind fun text =>
    (declaration.form.fault? text).map fun fault => ⟨declaration.name, fault, text⟩

/-- A setting has no effective text, or one of its form. -/
def Accepts (sources : Sources) (declaration : Declaration) : Prop :=
  ∀ text, sources.Sets declaration.name text → declaration.form.Accepts text

/-- A problem tells what is wrong with the effective text of a setting. -/
structure HasProblem (sources : Sources) (declaration : Declaration) (problem : SettingProblem) :
    Prop where
  name : problem.name = declaration.name
  text : sources.Sets declaration.name problem.input
  fault : declaration.form.fault? problem.input = some problem.fault

theorem problem?_eq_some_iff {sources : Sources} {declaration : Declaration}
    {problem : SettingProblem} :
    sources.problem? declaration = some problem ↔ sources.HasProblem declaration problem := by
  constructor
  · intro found
    simp only [problem?, Option.bind_eq_some_iff, Option.map_eq_some_iff] at found
    obtain ⟨text, effective, fault, wrong, rfl⟩ := found
    exact ⟨rfl, sets_iff.2 effective, wrong⟩
  · rintro ⟨name, effective, wrong⟩
    obtain ⟨_, fault, text⟩ := problem
    obtain rfl := name
    simp only at effective wrong
    simp [problem?, sets_iff.1 effective, wrong]

theorem problem?_eq_none_iff {sources : Sources} {declaration : Declaration} :
    sources.problem? declaration = none ↔ sources.Accepts declaration := by
  simp only [problem?, Option.bind_eq_none_iff, Option.map_eq_none_iff, Form.fault?_eq_none_iff,
    Accepts, sets_iff]

/-- A text in the environment is effective whatever the file holds. -/
theorem accepts_iff_of_environment {sources : Sources} {declaration : Declaration} {text : String}
    (found : sources.environment.find? declaration.name = some text) :
    sources.Accepts declaration ↔ declaration.form.Accepts text := by
  simp [Accepts, sets_iff, text?, found]

instance (sources : Sources) (declaration : Declaration) :
    Decidable (sources.Accepts declaration) :=
  decidable_of_iff (sources.problem? declaration = none) problem?_eq_none_iff

/-- The problems of a list of settings are, in order, those of the settings that are not
accepted. -/
theorem forall₂_problems (sources : Sources) (declarations : List Declaration) :
    List.Forall₂ sources.HasProblem
      (declarations.filter fun declaration => ¬ sources.Accepts declaration)
      (declarations.filterMap sources.problem?) := by
  induction declarations with
  | nil => exact .nil
  | cons declaration rest ih =>
      cases found : sources.problem? declaration with
      | none =>
          have accepted := problem?_eq_none_iff.1 found
          simpa [found, accepted] using ih
      | some problem =>
          have refused : ¬ sources.Accepts declaration := by
            simp [← problem?_eq_none_iff, found]
          rw [List.filter_cons_of_pos (by simpa using refused), List.filterMap_cons_some found]
          exact .cons (problem?_eq_some_iff.1 found) ih

/-- A setting has a value: that of its effective text, or the default where it has none. -/
inductive Gives {α : Type} (sources : Sources) (name : String)
    (form : String → Except SettingFault α) (default : α) : α → Prop where
  | text {text : String} {value : α} :
      sources.Sets name text → form text = .ok value → Gives sources name form default value
  | default : (∀ text, ¬ sources.Sets name text) → Gives sources name form default default

/-- What holds of a default and of every value of a form holds of the setting. -/
theorem Gives.of_form {α : Type} {sources : Sources} {name : String}
    {form : String → Except SettingFault α} {default value : α} {property : α → Prop}
    (given : sources.Gives name form default value) (ofDefault : property default)
    (ofText : ∀ text parsed, form text = .ok parsed → property parsed) : property value := by
  cases given with
  | text _ parsed => exact ofText _ _ parsed
  | default _ => exact ofDefault

theorem read_eq_valid_iff {α : Type} {sources : Sources} {name : String}
    {form : String → Except SettingFault α} {default value : α} :
    sources.read name form default = .valid value ↔ sources.Gives name form default value := by
  unfold read
  cases effective : sources.text? name with
  | none =>
      have unset : ∀ text, ¬ sources.Sets name text := by simp [sets_iff, effective]
      constructor
      · intro same
        obtain rfl := Checked.valid.inj same
        exact .default unset
      · rintro (⟨shown, _⟩ | _)
        · exact absurd shown (unset _)
        · rfl
  | some text =>
      have shown : sources.Sets name text := sets_iff.2 effective
      constructor
      · intro same
        simp only at same
        split at same
        · next value parsed =>
            obtain rfl := Checked.valid.inj same
            exact .text shown parsed
        · cases same
      · rintro (⟨other, parsed⟩ | unset)
        · obtain rfl : _ = text := Option.some.inj ((sets_iff.1 other).symm.trans effective)
          simp [parsed]
        · exact absurd shown (unset text)

theorem problems_read {α : Type} (sources : Sources) (name : String)
    (form : String → Except SettingFault α) (default : α) :
    (sources.read name form default).problems =
      ((sources.text? name).bind fun text =>
        (faultOf (form text)).map fun fault => SettingProblem.mk name fault text).toList := by
  unfold read
  cases sources.text? name with
  | none => rfl
  | some text => cases parsed : form text <;> simp [parsed, faultOf, Checked.problems]

theorem isExplained_read {α : Type} (sources : Sources) (name : String)
    (form : String → Except SettingFault α) (default : α) :
    (sources.read name form default).IsExplained := by
  unfold read
  split
  · exact Checked.isExplained_valid default
  · split
    · exact Checked.isExplained_valid _
    · simp [Checked.IsExplained]

end Sources

/-! ## Loading -/

/-- Every setting is read from its effective text or is the default. -/
structure IsReadFrom (settings : Settings) (sources : Sources) : Prop where
  version : sources.Gives "VERSION" SettingText.plain "0.12.0" settings.version
  refreshInterval :
    sources.Gives "REFRESH_INTERVAL" SettingText.positiveDecimal (.ofInt 1) settings.refreshInterval
  resolveHostnames :
    sources.Gives "RESOLVE_HOSTNAMES" SettingText.flag true settings.resolveHostnames
  dnsTimeout :
    sources.Gives "DNS_TIMEOUT" SettingText.positiveDecimal (.ofInt 2) settings.dnsTimeout
  dnsWorkers : sources.Gives "DNS_WORKERS" SettingText.atLeastOne 4 settings.dnsWorkers
  scenario : sources.Gives "DEMO_SCENARIO" SettingText.scenario .steady settings.scenario
  theme : sources.Gives "UI_THEME" SettingText.plain "orange" settings.theme
  heightBreakpoint :
    sources.Gives "UI_HEIGHT_BREAKPOINT" SettingText.atLeastOne 30 settings.heightBreakpoint
  widthBreakpoint :
    sources.Gives "UI_WIDTH_BREAKPOINT" SettingText.atLeastOne 120 settings.widthBreakpoint
  wideBreakpoint :
    sources.Gives "UI_WIDE_BREAKPOINT" SettingText.atLeastOne 150 settings.wideBreakpoint
  logDirectory :
    sources.Gives "LOG_DIR" SettingText.plain sources.defaultLogDirectory settings.logDirectory
  logFile :
    sources.Gives "LOG_FILE" SettingText.plain
      (sources.defaultLogDirectory ++ "/bandview.log") settings.logFile
  logLevel : sources.Gives "LOG_LEVEL" SettingText.plain "INFO" settings.logLevel
  truncateLog : sources.Gives "LOG_TRUNCATE_ON_START" SettingText.flag true settings.truncateLog

/-- The bounds that settings keep, and that the generator of traffic knows the name of
their scenario. -/
structure IsInBounds (settings : Settings) : Prop where
  refreshInterval : settings.refreshInterval.IsAboveZero
  dnsTimeout : settings.dnsTimeout.IsAboveZero
  dnsWorkers : 1 ≤ settings.dnsWorkers
  scenario : Scenario.ofName settings.scenario.name = .ok settings.scenario
  heightBreakpoint : 1 ≤ settings.heightBreakpoint
  widthBreakpoint : 1 ≤ settings.widthBreakpoint
  wideBreakpoint : 1 ≤ settings.wideBreakpoint

theorem load_eq_valid_iff {sources : Sources} {settings : Settings} :
    load sources = .valid settings ↔ settings.IsReadFrom sources := by
  simp only [load, Checked.apply_eq_valid_iff, Sources.read_eq_valid_iff, Checked.valid.injEq]
  constructor
  · rintro
      ⟨_, _, ⟨_, _, ⟨_, _, ⟨_, _, ⟨_, _, ⟨_, _, ⟨_, _, ⟨_, _, ⟨_, _, ⟨_, _, ⟨_, _, ⟨_, _, ⟨_, _,
      ⟨_, _, rfl, version, rfl⟩, refreshInterval, rfl⟩, resolveHostnames, rfl⟩, dnsTimeout, rfl⟩,
      dnsWorkers, rfl⟩, scenario, rfl⟩, theme, rfl⟩, heightBreakpoint, rfl⟩, widthBreakpoint,
      rfl⟩, wideBreakpoint, rfl⟩, logDirectory, rfl⟩, logFile, rfl⟩, logLevel, rfl⟩, truncateLog,
      rfl⟩
    constructor <;> assumption
  · intro given
    exact
      ⟨_, _, ⟨_, _, ⟨_, _, ⟨_, _, ⟨_, _, ⟨_, _, ⟨_, _, ⟨_, _, ⟨_, _, ⟨_, _, ⟨_, _, ⟨_, _, ⟨_, _,
      ⟨_, _, rfl, given.version, rfl⟩, given.refreshInterval, rfl⟩, given.resolveHostnames, rfl⟩,
      given.dnsTimeout, rfl⟩, given.dnsWorkers, rfl⟩, given.scenario, rfl⟩, given.theme, rfl⟩,
      given.heightBreakpoint, rfl⟩, given.widthBreakpoint, rfl⟩, given.wideBreakpoint, rfl⟩,
      given.logDirectory, rfl⟩, given.logFile, rfl⟩, given.logLevel, rfl⟩, given.truncateLog,
      rfl⟩

theorem problems_load (sources : Sources) :
    (load sources).problems = declarations.filterMap sources.problem? := by
  simp only [load, Checked.problems_apply, Sources.problems_read, List.filterMap_eq_flatMap_toList]
  simp [declarations, Sources.problem?, Form.fault?, Checked.problems]

theorem isExplained_load (sources : Sources) : (load sources).IsExplained := by
  simp only [load]
  iterate 14 refine .apply ?_ (sources.isExplained_read _ _ _)
  exact Checked.isExplained_valid _

/-- A setting that is read is within its bounds, whichever source it comes from. -/
theorem IsReadFrom.isInBounds {settings : Settings} {sources : Sources}
    (given : settings.IsReadFrom sources) : settings.IsInBounds where
  refreshInterval :=
    given.refreshInterval.of_form (by decide +kernel) fun _ _ => isAboveZero_of_positiveDecimal
  dnsTimeout :=
    given.dnsTimeout.of_form (by decide +kernel) fun _ _ => isAboveZero_of_positiveDecimal
  dnsWorkers := given.dnsWorkers.of_form (by decide) fun _ _ => one_le_of_atLeastOne
  scenario := by simp [Scenario.ofName]
  heightBreakpoint := given.heightBreakpoint.of_form (by decide) fun _ _ => one_le_of_atLeastOne
  widthBreakpoint := given.widthBreakpoint.of_form (by decide) fun _ _ => one_le_of_atLeastOne
  wideBreakpoint := given.wideBreakpoint.of_form (by decide) fun _ _ => one_le_of_atLeastOne

/-- The list has a problem with a setting exactly if the setting is not accepted.  Names
are declared once, so that no other setting has a problem of this name. -/
theorem exists_problem_iff {sources : Sources} {declaration : Declaration}
    (declared : declaration ∈ declarations) :
    (∃ problem ∈ (load sources).problems, problem.name = declaration.name) ↔
      ¬ sources.Accepts declaration := by
  rw [problems_load, ← Sources.problem?_eq_none_iff, ← ne_eq, Option.ne_none_iff_exists']
  constructor
  · rintro ⟨problem, member, name⟩
    obtain ⟨other, otherDeclared, found⟩ := List.mem_filterMap.1 member
    have sameName := (Sources.problem?_eq_some_iff.1 found).name.symm.trans name
    obtain rfl := List.inj_on_of_nodup_map nodup_declarations otherDeclared declared sameName
    exact ⟨problem, found⟩
  · rintro ⟨problem, found⟩
    exact ⟨problem, List.mem_filterMap.2 ⟨declaration, declared, found⟩,
      (Sources.problem?_eq_some_iff.1 found).name⟩

theorem nodup_problem_names (sources : Sources) :
    ((load sources).problems.map SettingProblem.name).Nodup := by
  have paired := sources.forall₂_problems declarations
  have sameNames : (declarations.filterMap sources.problem?).map SettingProblem.name =
      (declarations.filter fun declaration => ¬ sources.Accepts declaration).map
        Declaration.name := by
    rw [← List.forall₂_eq_eq_eq, List.forall₂_map_left_iff, List.forall₂_map_right_iff]
    exact paired.flip.imp fun _ _ found => found.name
  rw [problems_load, sameNames]
  exact nodup_declarations.sublist (List.filter_sublist.map _)

/-- Loading either gives every setting, each read from its effective text or the default
and within its bounds, or lists one problem for each setting whose effective text is not
of its form, in the order of declaration and none besides.  A text in the environment
decides about its setting whatever the file holds. -/
theorem load_gives_all_or_lists_problems (sources : Sources) :
    ((∃ settings, load sources = .valid settings) ↔
      ∀ declaration ∈ declarations, sources.Accepts declaration) ∧
    (∀ settings, load sources = .valid settings →
      settings.IsReadFrom sources ∧ settings.IsInBounds) ∧
    (∀ problems, load sources = .faulty problems →
      problems ≠ [] ∧ (problems.map SettingProblem.name).Nodup ∧
        List.Forall₂ sources.HasProblem
          (declarations.filter fun declaration => ¬ sources.Accepts declaration) problems) ∧
    ∀ declaration ∈ declarations, ∀ text,
      sources.environment.find? declaration.name = some text →
        ((∃ problem ∈ (load sources).problems, problem.name = declaration.name) ↔
          ¬ declaration.form.Accepts text) := by
  refine ⟨?complete, ?read, ?listed, ?shadowed⟩
  case complete =>
    rw [← (isExplained_load sources).problems_eq_nil_iff, problems_load,
      List.filterMap_eq_nil_iff]
    simp only [Sources.problem?_eq_none_iff]
  case read =>
    intro settings loaded
    have given := load_eq_valid_iff.1 loaded
    exact ⟨given, given.isInBounds⟩
  case listed =>
    intro problems failed
    obtain rfl : (load sources).problems = problems := by rw [failed, Checked.problems]
    refine ⟨?_, nodup_problem_names sources, ?_⟩
    · intro none
      exact isExplained_load sources (none ▸ failed)
    · rw [problems_load]
      exact sources.forall₂_problems declarations
  case shadowed =>
    intro declaration declared text found
    rw [exists_problem_iff declared, Sources.accepts_iff_of_environment found]

end Settings

end TrafficBoard
