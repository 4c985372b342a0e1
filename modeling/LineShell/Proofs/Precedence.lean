import Mathlib.Tactic.ByContra
import LineShell.LexicalTree
import LineShell.Program
import LineShell.Proofs.Options
import LineShell.Proofs.Session

/-
  Where the configuration of a run comes from.

  An option goes before the environment, and the environment
  before what is standard.  What does not count in the end is
  checked all the same: an option when it is read, and the
  environment before any option takes its place.

  Main declarations:
    * `Settings.effective`
    * `Program.Refused`
    * `Program.started`
    * `Program.effective_of_configure`
    * `Shell.run_asks`
    * `Program.options_before_environment`
-/

------------------------------------------------------------
-- Effective Settings
------------------------------------------------------------

namespace LineShell

namespace SpelledOption

/- The last text of a kind is that of some option. -/
theorem exists_of_last?
    {pick : SpelledOption → Option Text}
    {options : List SpelledOption}
    {given : Text}
    (hLast : last? pick options = some given) :
    ∃ spelled ∈ options, pick spelled = some given :=
  List.mem_filterMap.1 (List.mem_of_getLast? hLast)

end SpelledOption

namespace Settings

open SpelledOption

/-
  The settings of a run: the last option of a kind, else the
  variable of the environment, else what is standard.  To ask
  for everything to be logged goes before any level.
-/
def effective
    (environment : Environment)
    (options : List SpelledOption) : Settings where
  prompt :=
    ((last? prompt? options).or
      (environment.get? "TINYSH_PROMPT")).getD "$ "
  spawner :=
    ((last? spawner? options).or
      (environment.get? "TINYSH_SPAWNER")).getD "subprocess"
  level :=
    if options.any isVerbose then
      "DEBUG"
    else
      Text.upper <|
        ((last? level? options).or
          (environment.get? "TINYSH_LOG_LEVEL")).getD "WARNING"

/- The settings of the environment alone. -/
def ofEnvironment
    (environment : Environment) : Settings :=
  standard.override (Config.environmentSettings environment)

/- What the options put in place of a configuration's settings. -/
def overridden
    (config : Config)
    (options : List SpelledOption) : Settings :=
  config.settings.override (selected options).overrides

variable {hasFork : Bool}
variable {environment : Environment}
variable {options : List SpelledOption}
variable {config : Config}

theorem last?_spawner_isName
    (hAdmissible : ∀ spelled ∈ options, spelled.Admissible)
    {given : Text}
    (hLast : last? spawner? options = some given) :
    SpawnMethod.IsName given := by
  rcases exists_of_last? hLast with ⟨spelled, hMem, hPick⟩
  cases spelled with
  | spawner other =>
      cases hPick
      exact hAdmissible _ hMem
  | _ => cases hPick

theorem last?_level_isName
    (hAdmissible : ∀ spelled ∈ options, spelled.Admissible)
    {given : Text}
    (hLast : last? level? options = some given) :
    Level.IsName (Text.upper given) := by
  rcases exists_of_last? hLast with ⟨spelled, hMem, hPick⟩
  cases spelled with
  | level other =>
      cases hPick
      exact hAdmissible _ hMem
  | _ => cases hPick

/- Overriding leads to names, if the options are admissible. -/
theorem overridden_names
    (hAdmissible : ∀ spelled ∈ options, spelled.Admissible)
    (config : Config) :
    SpawnMethod.IsName (overridden config options).spawner ∧
      Level.IsName
        (Text.upper (overridden config options).level) := by
  have hUpper {given : Text} (hName : Level.IsName given) :
      Level.IsName (Text.upper given) := by
    rw [Level.upper_of_isName hName]
    exact hName
  unfold overridden
  rw [selected_overrides]
  unfold override
  dsimp only
  constructor
  · cases hLast : last? spawner? options with
    | none =>
        exact SpawnMethod.isName_iff.2 ⟨config.spawner, rfl⟩
    | some given => exact last?_spawner_isName hAdmissible hLast
  · cases options.any isVerbose with
    | true =>
        exact hUpper (Level.isName_iff.2 ⟨.debug, rfl⟩)
    | false =>
        cases hLast : last? level? options with
        | none =>
            exact hUpper
              (Level.isName_iff.2 ⟨config.level, rfl⟩)
        | some given =>
            exact hUpper (last?_level_isName hAdmissible hLast)

/-
  Overriding the settings of the environment leads to those
  that are effective, with the level in upper case.
-/
theorem overridden_eq_effective
    (hAdmissible : ∀ spelled ∈ options, spelled.Admissible)
    (hConfig :
      (ofEnvironment environment).validate hasFork = .ok config) :
    (overridden config options).normalized =
      effective environment options := by
  have hSettings := (validate_eq_ok_iff.1 hConfig).1
  have hEnvironment :
      Level.IsName
        (Text.upper (ofEnvironment environment).level) :=
    (validate_answers_iff.1 ⟨config, hConfig⟩).level
  have hPrompt :
      (overridden config options).prompt =
        (effective environment options).prompt := by
    unfold overridden
    rw [hSettings, selected_overrides]
    exact Option.getD_or.symm
  have hSpawner :
      (overridden config options).spawner =
        (effective environment options).spawner := by
    unfold overridden
    rw [hSettings, selected_overrides]
    exact Option.getD_or.symm
  have hLevel :
      Text.upper (overridden config options).level =
        (effective environment options).level := by
    unfold overridden effective
    rw [hSettings, selected_overrides]
    unfold override normalized
    cases options.any isVerbose with
    | true =>
        exact Level.upper_of_isName
          (Level.isName_iff.2 ⟨.debug, rfl⟩)
    | false =>
        cases hLast : last? level? options with
        | none => exact Level.upper_of_isName hEnvironment
        | some given =>
            exact Level.upper_of_isName
              (last?_level_isName hAdmissible hLast)
  unfold normalized
  rw [hPrompt, hSpawner, hLevel]

end Settings

end LineShell

------------------------------------------------------------
-- Refusals
------------------------------------------------------------

namespace LineShell

namespace Program

open SpelledOption

/-
  Why a run is refused: an option or a variable gives a value
  that is none, even if it does not count, or the environment's
  or the effective way to start children is not offered.
-/
inductive Refused
    (hasFork : Bool)
    (environment : Environment)
    (options : List SpelledOption) : Prop where
  | spawner
      {given : Text}
      (hGiven : .spawner given ∈ options)
      (hName : ¬ SpawnMethod.IsName given)
  | level
      {given : Text}
      (hGiven : .level given ∈ options)
      (hName : ¬ Level.IsName (Text.upper given))
  | variableSpawner
      {given : Text}
      (hSet : environment.get? "TINYSH_SPAWNER" = some given)
      (hName : ¬ SpawnMethod.IsName given)
  | variableLevel
      {given : Text}
      (hSet : environment.get? "TINYSH_LOG_LEVEL" = some given)
      (hName : ¬ Level.IsName (Text.upper given))
  | variableFork
      (hSet :
        environment.get? "TINYSH_SPAWNER" = some "fork".toList)
      (hFork : hasFork = false)
  | effectiveFork
      (hEffective :
        (Settings.effective environment options).spawner =
          "fork".toList)
      (hFork : hasFork = false)

variable {hasFork : Bool}
variable {environment : Environment}
variable {options : List SpelledOption}
variable {config : Config}
variable {fault : Fault}

/- Unless it is refused, all options of a run are admissible. -/
theorem admissible_of_not_refused
    (hAccepted : ¬ Refused hasFork environment options) :
    ∀ spelled ∈ options, spelled.Admissible := by
  intro spelled hMem
  cases spelled with
  | spawner given =>
      by_contra hName
      exact hAccepted (.spawner hMem hName)
  | level given =>
      by_contra hName
      exact hAccepted (.level hMem hName)
  | _ => trivial

/- And its environment is valid. -/
theorem environment_valid_of_not_refused
    (hAccepted : ¬ Refused hasFork environment options) :
    (Settings.ofEnvironment environment).Valid hasFork := by
  have hSpawner :
      (Settings.ofEnvironment environment).spawner =
        (environment.get? "TINYSH_SPAWNER").getD "subprocess" :=
    rfl
  have hLevel :
      (Settings.ofEnvironment environment).level =
        (environment.get? "TINYSH_LOG_LEVEL").getD "WARNING" :=
    rfl
  constructor
  · rw [hSpawner]
    cases hSet : environment.get? "TINYSH_SPAWNER" with
    | none => exact Or.inl rfl
    | some given =>
        by_contra hName
        exact hAccepted (.variableSpawner hSet hName)
  · rw [hSpawner]
    cases hSet : environment.get? "TINYSH_SPAWNER" with
    | none =>
        intro hStandard
        exact absurd hStandard (by decide)
    | some given =>
        intro hGiven
        have hFork : given = "fork".toList := hGiven
        rw [hFork] at hSet
        by_contra hOffered
        exact hAccepted
          (.variableFork hSet (Bool.eq_false_iff.2 hOffered))
  · rw [hLevel]
    cases hSet : environment.get? "TINYSH_LOG_LEVEL" with
    | none => decide +kernel
    | some given =>
        by_contra hName
        exact hAccepted (.variableLevel hSet hName)

/- And what is effective is offered. -/
theorem offered_of_not_refused
    (hAccepted : ¬ Refused hasFork environment options)
    (hFork :
      (Settings.effective environment options).spawner =
        "fork".toList) :
    hasFork = true := by
  by_contra hOffered
  exact hAccepted
    (.effectiveFork hFork (Bool.eq_false_iff.2 hOffered))

/- Conversely, there are no other reasons to refuse a run. -/
theorem not_refused
    (hAdmissible : ∀ spelled ∈ options, spelled.Admissible)
    (hValid : (Settings.ofEnvironment environment).Valid hasFork)
    (hOffered :
      (Settings.effective environment options).spawner =
          "fork".toList →
        hasFork = true) :
    ¬ Refused hasFork environment options := by
  have hSpawner (given : Text)
      (hSet : environment.get? "TINYSH_SPAWNER" = some given) :
      (Settings.ofEnvironment environment).spawner = given := by
    change (environment.get? "TINYSH_SPAWNER").getD _ = given
    rw [hSet]
    rfl
  have hLevel (given : Text)
      (hSet : environment.get? "TINYSH_LOG_LEVEL" = some given) :
      (Settings.ofEnvironment environment).level = given := by
    change (environment.get? "TINYSH_LOG_LEVEL").getD _ = given
    rw [hSet]
    rfl
  intro hRefused
  cases hRefused with
  | spawner hGiven hName => exact hName (hAdmissible _ hGiven)
  | level hGiven hName => exact hName (hAdmissible _ hGiven)
  | variableSpawner hSet hName =>
      exact hName (hSpawner _ hSet ▸ hValid.spawner)
  | variableLevel hSet hName =>
      exact hName (hLevel _ hSet ▸ hValid.level)
  | variableFork hSet hFork =>
      rw [hValid.offered (hSpawner _ hSet)] at hFork
      cases hFork
  | effectiveFork hEffective hFork =>
      rw [hOffered hEffective] at hFork
      cases hFork

end Program

end LineShell

------------------------------------------------------------
-- Configuring a Run
------------------------------------------------------------

namespace LineShell

namespace Program

open SpelledOption

variable {hasFork : Bool}
variable {environment : Environment}
variable {options : List SpelledOption}
variable {config : Config}
variable {fault : Fault}

/- The environment is validated, and then what overrides it. -/
theorem configure_selected
    (hasFork : Bool)
    (environment : Environment)
    (options : List SpelledOption) :
    configure hasFork environment (selected options) =
      ((Settings.ofEnvironment environment).validate
          hasFork).bind fun config =>
        (Settings.overridden config options).validate hasFork := by
  rcases selected_brings options with ⟨-, hSpawner, hLevel⟩
  have hEnvironment :
      Config.ofEnvironment hasFork environment =
        (Settings.ofEnvironment environment).validate hasFork :=
    rfl
  have hOverride (config : Config) :
      config.override hasFork (selected options).overrides =
        (Settings.overridden config options).validate hasFork :=
    rfl
  unfold configure
  rw [hEnvironment]
  cases (Settings.ofEnvironment environment).validate hasFork with
  | error fault => rfl
  | ok config =>
      simp only [bind, Except.bind, hSpawner, hLevel, hOverride,
        Bool.false_eq_true, if_false]
      cases (Settings.overridden config options).validate
          hasFork with
      | error fault => rfl
      | ok config => rfl

/- If a run has a configuration, that is the effective one. -/
theorem effective_of_configure
    (hAdmissible : ∀ spelled ∈ options, spelled.Admissible)
    (hConfig :
      configure hasFork environment (selected options) =
        .ok config) :
    config.settings = Settings.effective environment options ∧
      ¬ Refused hasFork environment options := by
  rw [configure_selected] at hConfig
  cases hFirst :
      (Settings.ofEnvironment environment).validate hasFork with
  | error fault =>
      rw [hFirst] at hConfig
      cases hConfig
  | ok first =>
      rw [hFirst] at hConfig
      have hEffective :=
        Settings.overridden_eq_effective hAdmissible hFirst
      rcases Settings.validate_eq_ok_iff.1 hConfig with
        ⟨hSettings, hOffered⟩
      refine ⟨hSettings.trans hEffective, ?_⟩
      apply not_refused hAdmissible
      · exact Settings.validate_answers_iff.1 ⟨first, hFirst⟩
      · rw [← hEffective]
        exact hOffered

/- A run that is not refused has a configuration. -/
theorem exists_configure_selected
    (hAccepted : ¬ Refused hasFork environment options) :
    ∃ config,
      configure hasFork environment (selected options) =
        .ok config := by
  have hAdmissible := admissible_of_not_refused hAccepted
  rcases Settings.validate_answers_iff.2
      (environment_valid_of_not_refused hAccepted) with
    ⟨first, hFirst⟩
  rcases Settings.overridden_names hAdmissible first with
    ⟨hSpawner, hLevel⟩
  have hEffective :
      (Settings.overridden first options).spawner =
        (Settings.effective environment options).spawner := by
    rw [← Settings.overridden_eq_effective hAdmissible hFirst]
    rfl
  rw [configure_selected, hFirst]
  refine Settings.validate_answers_iff.2 ⟨hSpawner, ?_, hLevel⟩
  intro hFork
  exact offered_of_not_refused hAccepted
    (hEffective.symm.trans hFork)

/- What is refused then is a fault of the configuration. -/
theorem configure_selected_fault
    (hFault :
      configure hasFork environment (selected options) =
        .error fault) :
    ∃ option given detail,
      fault = .config option given detail := by
  rw [configure_selected] at hFault
  cases hFirst :
      (Settings.ofEnvironment environment).validate hasFork with
  | error other =>
      rw [hFirst] at hFault
      cases hFault
      exact Settings.validate_fault hFirst
  | ok first =>
      rw [hFirst] at hFault
      exact Settings.validate_fault hFault

end Program

end LineShell

------------------------------------------------------------
-- Starting the Shell
------------------------------------------------------------

namespace LineShell

namespace Shell

variable {φ δ : Type}

/- A run begins by asking for a line. -/
theorem run_asks
    (M : Machine φ δ)
    (prompt : Text)
    {c : Console φ δ}
    (hOut : c.world.streams.Works .out) :
    ∃ later, (run M prompt c).trace = asking prompt ++ later := by
  have hPrompted := promptUser_accepted prompt hOut
  have hRound :
      ∃ later,
        (round M prompt c).trace = asking prompt ++ later := by
    by_cases hInput : c.input = []
    · rw [round_of_end M (by rw [hPrompted]) hInput, hPrompted]
      exact ⟨_, rfl⟩
    · rw [round_of_input M (by rw [hPrompted]) hInput, hPrompted]
      exact ⟨_, rfl⟩
  rcases hRound with ⟨first, hFirst⟩
  rw [run_eq_round]
  unfold Outcome.andThen
  rw [hFirst]
  cases (round M prompt c).result with
  | error fault => exact ⟨first, rfl⟩
  | ok answer => exact ⟨_, List.append_assoc _ _ _⟩

end Shell

namespace Program

open SpelledOption

variable {φ δ : Type}
variable {host : Host φ δ}
variable {startup : Startup φ}
variable {options : List SpelledOption}

/-
  A run of the shell on all of its input with a configuration:
  its prompt, its way to start children and its level.
-/
def started
    (host : Host φ δ)
    (startup : Startup φ)
    (config : Config) : Exit :=
  let world : World φ δ :=
    { environment := startup.environment
      files := startup.files
      device := host.standardInput startup.input true }
  let outcome :=
    Shell.run (host.machine config.spawner) config.prompt
      ⟨world, Text.unifyLineEnds startup.input⟩
  let (status, last) := conclude outcome.result
  ⟨status, outcome.trace ++ last, config.level⟩

/- It asks for input. -/
theorem started_awaits
    (host : Host φ δ)
    (startup : Startup φ)
    (config : Config) :
    (started host startup config).trace.awaits ≠ 0 := by
  let c : Console φ δ :=
    ⟨{ environment := startup.environment
       files := startup.files
       device := host.standardInput startup.input true },
      Text.unifyLineEnds startup.input⟩
  have hOut : c.world.streams.Works .out := fun _ _ => rfl
  rcases Shell.run_asks (host.machine config.spawner)
      config.prompt hOut with
    ⟨later, hTrace⟩
  have hAsking : (Shell.asking config.prompt).awaits = 1 := rfl
  unfold started
  dsimp only
  rw [Trace.awaits_append, hTrace, Trace.awaits_append, hAsking]
  omega

/- The options leave it to the shell to read its input. -/
theorem perform_selected
    {config : Config}
    (hConfig :
      configure host.hasFork startup.environment
        (selected options) = .ok config) :
    perform host startup (selected options) =
      .ok (started host startup config) := by
  rcases selected_brings options with ⟨hPrompt, -, -⟩
  have hLine : (selected options).line = none := rfl
  unfold perform
  rw [hConfig]
  simp only [bind, Except.bind, interpret, hLine, hPrompt,
    if_false]
  rfl

/- Whatever is refused is told, and nothing else is done. -/
theorem run_of_refused
    (hArgs : startup.args = options.map argument)
    (hDashes : ∀ spelled ∈ options,
      spelled.value? ≠ some ['-', '-'])
    (hRefused :
      Refused host.hasFork startup.environment options) :
    ∃ text, run host startup = Exit.saying .err text 2 := by
  unfold run
  rw [hArgs]
  by_cases hAdmissible :
      ∀ spelled ∈ options, spelled.Admissible
  · rw [read_of_admissible hDashes hAdmissible, foldl_kept_eq]
    cases hConfig :
        configure host.hasFork startup.environment
          (selected options) with
    | ok config =>
        exact absurd hRefused
          (effective_of_configure hAdmissible hConfig).2
    | error fault =>
        have hPerform :
            perform host startup (selected options) =
              .error fault := by
          unfold perform
          rw [hConfig]
          rfl
        rcases configure_selected_fault hConfig with
          ⟨option, given, detail, rfl⟩
        simp only [hPerform, refuse]
        exact ⟨_, rfl⟩
  · -- No option is taken after one that is not admissible, and
    -- the environment is not looked at.
    have hNot : ∃ spelled ∈ options, ¬ spelled.Admissible := by
      simpa using hAdmissible
    rcases read_of_not_admissible hDashes hNot with
      ⟨fault, hRead⟩
    rw [hRead]
    exact ⟨_, rfl⟩

/- Whatever is not, runs the shell as it is configured. -/
theorem run_of_not_refused
    (hArgs : startup.args = options.map argument)
    (hDashes : ∀ spelled ∈ options,
      spelled.value? ≠ some ['-', '-'])
    (hAccepted :
      ¬ Refused host.hasFork startup.environment options) :
    ∃ config : Config,
      config.settings =
          Settings.effective startup.environment options ∧
        run host startup = started host startup config := by
  have hAdmissible := admissible_of_not_refused hAccepted
  rcases exists_configure_selected hAccepted with
    ⟨config, hConfig⟩
  refine ⟨config, ?_, ?_⟩
  · exact (effective_of_configure hAdmissible hConfig).1
  · unfold run
    rw [hArgs, read_of_admissible hDashes hAdmissible,
      foldl_kept_eq]
    dsimp only
    rw [perform_selected hConfig]

/-
  Options that are spelled out end a run with status 2, before
  it reads any input, exactly if it is refused.  Every other
  run is that of the shell with the effective settings.
-/
theorem options_before_environment
    (host : Host φ δ)
    (startup : Startup φ)
    (options : List SpelledOption)
    (hArgs : startup.args = options.map argument)
    (hDashes : ∀ spelled ∈ options,
      spelled.value? ≠ some ['-', '-']) :
    ((run host startup).status = 2 ∧
          (run host startup).trace.awaits = 0 ↔
        Refused host.hasFork startup.environment options) ∧
      (Refused host.hasFork startup.environment options →
        ∃ text, run host startup = Exit.saying .err text 2) ∧
      (¬ Refused host.hasFork startup.environment options →
        ∃ config : Config,
          config.settings =
              Settings.effective startup.environment options ∧
            run host startup = started host startup config) := by
  refine ⟨⟨?_, ?_⟩, run_of_refused hArgs hDashes,
    run_of_not_refused hArgs hDashes⟩
  · rintro ⟨-, hAwaits⟩
    by_contra hAccepted
    rcases run_of_not_refused hArgs hDashes hAccepted with
      ⟨config, -, hRun⟩
    rw [hRun] at hAwaits
    exact started_awaits host startup config hAwaits
  · intro hRefused
    rcases run_of_refused hArgs hDashes hRefused with
      ⟨text, hRun⟩
    rw [hRun]
    exact ⟨rfl, rfl⟩

/-
  Without forks, an option can replace another that asks for
  them.  A level is no less valid for not counting, and neither
  is a prompt that looks like an option of its own.
-/
theorem options_before_environment_verbose :
    let options : List SpelledOption :=
      [.spawner "fork", .v, .level "info", .prompt [],
        .spawner "subprocess", .level "eRRor",
        .prompt "--prompt=a b"]
    let startup : Startup LexicalTree :=
      { args :=
          ["--spawner=fork", "-v", "--log-level=info",
            "--prompt=", "--spawner=subprocess",
            "--log-level=eRRor", "--prompt=--prompt=a b"]
        environment :=
          [("TINYSH_PROMPT", "> "),
            ("TINYSH_LOG_LEVEL", "critical")]
        files := .build "/" [] []
        input := "exit 2" }
    let host : Host LexicalTree (Except Fault Int) :=
      { machine := fun _ => LexicalTree.machine
        standardInput := fun _ _ => .ok 0
        hasFork := false }
    startup.args = options.map argument ∧
      (∀ spelled ∈ options,
        spelled.value? ≠ some ['-', '-']) ∧
      ¬ Refused host.hasFork startup.environment options ∧
      ∃ config : Config,
        config.settings =
            ⟨"--prompt=a b", "subprocess", "DEBUG"⟩ ∧
          run host startup = started host startup config := by
  intro options startup host
  have hArgs : startup.args = options.map argument := by
    decide
  have hDashes : ∀ spelled ∈ options,
      spelled.value? ≠ some ['-', '-'] := by
    decide
  have hAdmissible : ∀ spelled ∈ options, spelled.Admissible := by
    decide +kernel
  have hValid :
      (Settings.ofEnvironment startup.environment).Valid
        host.hasFork :=
    ⟨by decide, by decide, by decide +kernel⟩
  have hEffective :
      Settings.effective startup.environment options =
        ⟨"--prompt=a b", "subprocess", "DEBUG"⟩ :=
    rfl
  have hAccepted :
      ¬ Refused host.hasFork startup.environment options :=
    not_refused hAdmissible hValid (by rw [hEffective]; decide)
  rcases (options_before_environment host startup options hArgs
      hDashes).2.2 hAccepted with
    ⟨config, hSettings, hRun⟩
  exact ⟨hArgs, hDashes, hAccepted, config,
    hSettings.trans hEffective, hRun⟩

end Program

end LineShell
