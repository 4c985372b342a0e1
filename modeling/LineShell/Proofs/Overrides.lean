import Mathlib.Tactic.ByContra
import LineShell.Proofs.Config

/-
  Overriding a configuration in steps.

  A step that raises keeps the configuration, and a step that
  does not puts all that it gives in place.  So after any steps
  each setting is the last one that was given by a step that did
  not raise, and the configuration is as valid as at the start.

  Main declarations:
    * `Config.afterOverrides`
    * `Config.taken`
    * `Settings.latest`
    * `Config.override_raises_iff`
    * `Config.settings_afterOverrides`
    * `Config.afterOverrides_merges`
-/

------------------------------------------------------------
-- Steps
------------------------------------------------------------

namespace LineShell

namespace Config

/- The configuration after a step; one that raises keeps it. -/
def tryOverride
    (hasFork : Bool)
    (config : Config)
    (given : Overrides) : Config :=
  match config.override hasFork given with
  | .ok next => next
  | .error _ => config

/- The configuration after steps in order. -/
def afterOverrides
    (hasFork : Bool)
    (config : Config)
    (steps : List Overrides) : Config :=
  steps.foldl (tryOverride hasFork) config

/- The steps that do not raise, each where it is taken. -/
def taken
    (hasFork : Bool)
    (config : Config) : List Overrides → List Overrides
  | [] => []
  | given :: later =>
      match config.override hasFork given with
      | .ok next => given :: taken hasFork next later
      | .error _ => taken hasFork config later

end Config

end LineShell

------------------------------------------------------------
-- The Last Setting Given
------------------------------------------------------------

namespace LineShell

namespace Overrides

/- The last text that some overrides give for a setting. -/
def last?
    (pick : Overrides → Option Text)
    (steps : List Overrides) : Option Text :=
  (steps.filterMap pick).getLast?

theorem last?_cons
    (pick : Overrides → Option Text)
    (given : Overrides)
    (later : List Overrides) :
    last? pick (given :: later) =
      (last? pick later).or (pick given) := by
  unfold last?
  cases hPick : pick given with
  | none => rw [List.filterMap_cons_none hPick, Option.or_none]
  | some text =>
      rw [List.filterMap_cons_some hPick, List.getLast?_cons]
      cases (later.filterMap pick).getLast? with
      | none => rfl
      | some other => rfl

end Overrides

namespace Settings

/-
  The settings with the last that is given for each in its
  place, a level in upper case.
-/
def latest
    (settings : Settings)
    (steps : List Overrides) : Settings where
  prompt :=
    (Overrides.last? (·.prompt) steps).getD settings.prompt
  spawner :=
    (Overrides.last? (·.spawner) steps).getD settings.spawner
  level :=
    ((Overrides.last? (·.level) steps).map Text.upper).getD
      settings.level

/- To start with one step more is to start from its settings. -/
theorem latest_cons
    {settings : Settings}
    (hLevel : Text.upper settings.level = settings.level)
    (given : Overrides)
    (later : List Overrides) :
    settings.latest (given :: later) =
      (settings.override given).normalized.latest later := by
  have hUpper :
      Text.upper (given.level.getD settings.level) =
        (given.level.map Text.upper).getD settings.level := by
    cases given.level with
    | none => exact hLevel
    | some level => rfl
  unfold latest normalized override
  simp only [Overrides.last?_cons, Option.getD_or, Option.map_or,
    hUpper]

/- What is wrong with settings that are not valid. -/
theorem not_valid_iff
    {hasFork : Bool}
    {settings : Settings} :
    ¬ settings.Valid hasFork ↔
      ¬ SpawnMethod.IsName settings.spawner ∨
        (settings.spawner = "fork".toList ∧ hasFork = false) ∨
        ¬ Level.IsName (Text.upper settings.level) := by
  constructor
  · intro hInvalid
    by_cases hName : SpawnMethod.IsName settings.spawner
    · by_cases hLevel : Level.IsName (Text.upper settings.level)
      · apply Or.inr
        apply Or.inl
        rw [← Bool.not_eq_true]
        constructor
        · by_contra hOther
          exact hInvalid
            ⟨hName, fun hFork => absurd hFork hOther, hLevel⟩
        · intro hOffered
          exact hInvalid ⟨hName, fun _ => hOffered, hLevel⟩
      · exact Or.inr (Or.inr hLevel)
    · exact Or.inl hName
  · rintro (hName | ⟨hFork, hAbsent⟩ | hLevel) hValid
    · exact hName hValid.spawner
    · rw [hValid.offered hFork] at hAbsent
      cases hAbsent
    · exact hLevel hValid.level

end Settings

end LineShell

------------------------------------------------------------
-- One Step
------------------------------------------------------------

namespace LineShell

namespace Config

variable {hasFork : Bool}
variable {config next : Config}
variable {given : Overrides}

/- The way to start children is one that the platform offers. -/
def Offered
    (hasFork : Bool)
    (config : Config) : Prop :=
  config.spawner.isAvailable hasFork = true

theorem offered_of_validate
    {settings : Settings}
    (hValid : settings.validate hasFork = .ok config) :
    config.Offered hasFork := by
  rcases Settings.validate_eq_ok_iff.1 hValid with
    ⟨hSettings, hOffered⟩
  have hName : config.spawner.name = settings.spawner :=
    congrArg Settings.spawner hSettings
  apply SpawnMethod.isAvailable_iff.2
  rw [hName]
  exact hOffered

theorem upper_level
    (config : Config) :
    Text.upper config.settings.level = config.settings.level :=
  Level.upper_of_isName (Level.isName_iff.2 ⟨config.level, rfl⟩)

/- A step that does not raise puts what it gives in place. -/
theorem override_settings
    (hNext : config.override hasFork given = .ok next) :
    next.settings = (config.settings.override given).normalized :=
  (Settings.validate_eq_ok_iff.1 hNext).1

/-
  A step raises if the way to start children that results is
  unknown or not offered, or the level that results is unknown.
-/
theorem override_raises_iff
    (hasFork : Bool)
    (config : Config)
    (given : Overrides) :
    let wanted := config.settings.override given
    (∃ fault, config.override hasFork given = .error fault) ↔
      ¬ SpawnMethod.IsName wanted.spawner ∨
        (wanted.spawner = "fork".toList ∧ hasFork = false) ∨
        ¬ Level.IsName (Text.upper wanted.level) := by
  intro wanted
  rw [← Settings.not_valid_iff, ← Settings.validate_answers_iff]
  change (∃ fault, wanted.validate hasFork = .error fault) ↔ _
  cases wanted.validate hasFork with
  | ok next => simp
  | error fault => simp

theorem tryOverride_of_ok
    (hNext : config.override hasFork given = .ok next) :
    config.tryOverride hasFork given = next := by
  rw [tryOverride, hNext]

theorem tryOverride_of_error
    {fault : Fault}
    (hFault : config.override hasFork given = .error fault) :
    config.tryOverride hasFork given = config := by
  rw [tryOverride, hFault]

theorem taken_of_ok
    (hNext : config.override hasFork given = .ok next)
    (later : List Overrides) :
    config.taken hasFork (given :: later) =
      given :: next.taken hasFork later := by
  rw [taken, hNext]

theorem taken_of_error
    {fault : Fault}
    (hFault : config.override hasFork given = .error fault)
    (later : List Overrides) :
    config.taken hasFork (given :: later) =
      config.taken hasFork later := by
  rw [taken, hFault]

/- A step that gives nothing changes nothing. -/
theorem override_nothing
    (hOffered : config.Offered hasFork) :
    config.override hasFork {} = .ok config := by
  apply Settings.validate_eq_ok_iff.2
  constructor
  · change config.settings = ⟨_, _, Text.upper _⟩
    rw [show config.settings.override {} = config.settings from rfl,
      upper_level]
  · exact SpawnMethod.isAvailable_iff.1 hOffered

/- What is offered can be made from its name. -/
theorem make_spawner
    (hOffered : config.Offered hasFork) :
    SpawnMethod.make hasFork config.spawner.name =
      .ok config.spawner := by
  unfold SpawnMethod.make
  rw [SpawnMethod.named?_eq_some_iff.2 rfl]
  exact if_pos hOffered

end Config

end LineShell

------------------------------------------------------------
-- Many Steps
------------------------------------------------------------

namespace LineShell

namespace Config

variable {hasFork : Bool}
variable {start : Config}

/- Where a configuration comes from: given texts or variables. -/
inductive Started
    (hasFork : Bool) : Config → Prop where
  | made
      {given : Overrides}
      {config : Config}
      (hMake : make hasFork given = .ok config) :
      Started hasFork config
  | environment
      {environment : Environment}
      {config : Config}
      (hMake : ofEnvironment hasFork environment = .ok config) :
      Started hasFork config

theorem Started.offered
    (hStart : Started hasFork start) :
    start.Offered hasFork := by
  cases hStart with
  | made hMake => exact offered_of_validate hMake
  | environment hMake => exact offered_of_validate hMake

/- No step leads to a way to start children that is not offered. -/
theorem offered_afterOverrides
    (hOffered : start.Offered hasFork)
    (steps : List Overrides) :
    (start.afterOverrides hasFork steps).Offered hasFork := by
  induction steps generalizing start with
  | nil => exact hOffered
  | cons given later ih =>
      apply ih
      cases hNext : start.override hasFork given with
      | ok next =>
          rw [tryOverride_of_ok hNext]
          exact offered_of_validate hNext
      | error fault =>
          rw [tryOverride_of_error hNext]
          exact hOffered

/- Each setting is the last that a step gave without raising. -/
theorem settings_afterOverrides
    (hasFork : Bool)
    (start : Config)
    (steps : List Overrides) :
    (start.afterOverrides hasFork steps).settings =
      start.settings.latest (start.taken hasFork steps) := by
  induction steps generalizing start with
  | nil => rfl
  | cons given later ih =>
      have hStep :
          start.afterOverrides hasFork (given :: later) =
            (start.tryOverride hasFork given).afterOverrides
              hasFork later :=
        rfl
      rw [hStep, ih]
      cases hNext : start.override hasFork given with
      | ok next =>
          rw [tryOverride_of_ok hNext, taken_of_ok hNext,
            Settings.latest_cons start.upper_level,
            override_settings hNext]
      | error fault =>
          rw [tryOverride_of_error hNext, taken_of_error hNext]

/-
  Overriding in steps is atomic, and the last setting given
  wins.  From any start and after any steps, each setting is the
  last that was given by a step that did not raise, a level in
  upper case, or else that of the start.  A next step raises if
  what it results in names no way to start children, or one that
  is not offered, or no level; it raises a fault of the
  configuration, and it is as if it had not been tried.  The way
  to start children can be made, the level has its number, and
  a step that gives nothing leads to the same configuration.
-/
theorem afterOverrides_merges
    (hStart : Started hasFork start)
    (steps : List Overrides) :
    let config := start.afterOverrides hasFork steps
    config.settings =
        start.settings.latest (start.taken hasFork steps) ∧
      (∀ given,
        let wanted := config.settings.override given
        ((∃ fault,
            config.override hasFork given = .error fault) ↔
          ¬ SpawnMethod.IsName wanted.spawner ∨
            (wanted.spawner = "fork".toList ∧
              hasFork = false) ∨
            ¬ Level.IsName (Text.upper wanted.level)) ∧
        ∀ fault,
          config.override hasFork given = .error fault →
            (∃ option text detail,
              fault = .config option text detail) ∧
            start.afterOverrides hasFork (steps ++ [given]) =
              config) ∧
      SpawnMethod.make hasFork config.spawner.name =
        .ok config.spawner ∧
      config.level.value ∈ [10, 20, 30, 40, 50] ∧
      config.override hasFork {} = .ok config := by
  intro config
  have hOffered := offered_afterOverrides hStart.offered steps
  refine ⟨settings_afterOverrides hasFork start steps, ?_,
    make_spawner hOffered, ?_, override_nothing hOffered⟩
  · intro given wanted
    refine ⟨override_raises_iff hasFork config given, ?_⟩
    intro fault hFault
    refine ⟨Settings.validate_fault hFault, ?_⟩
    have hNext :
        start.afterOverrides hasFork (steps ++ [given]) =
          config.tryOverride hasFork given :=
      List.foldl_append
    rw [hNext, tryOverride_of_error hFault]
  · cases config.level with
    | _ => decide

/-
  A step with a prompt and a level that is none gives neither,
  nor does one with a prompt and a way that is not offered; a
  level is spelled in any case.
-/
theorem afterOverrides_merges_refused_steps :
    let environment : Environment :=
      [("TINYSH_PROMPT", "> "), ("TINYSH_LOG_LEVEL", "ınfo")]
    let start : Config := ⟨"> ", .subprocess, .info⟩
    let steps : List Overrides :=
      [{ prompt := some "a", level := some "loud" },
        { level := some "Debug" },
        { prompt := some "b", spawner := some "fork" },
        { prompt := some "", spawner := some "subprocess" },
        { level := some "DEBUG " }]
    let config := start.afterOverrides false steps
    ofEnvironment false environment = .ok start ∧
      start.taken false steps =
        [{ level := some "Debug" },
          { prompt := some "", spawner := some "subprocess" }] ∧
      config.settings = ⟨"", "subprocess", "DEBUG"⟩ ∧
      SpawnMethod.make false "subprocess" = .ok config.spawner ∧
      config.override false {} = .ok config := by
  intro environment start steps config
  have hStart : ofEnvironment false environment = .ok start := by
    unfold ofEnvironment make
    rw [Settings.validate_eq_ok_iff]
    decide +kernel
  have hTaken :
      start.taken false steps =
        [{ level := some "Debug" },
          { prompt := some "", spawner := some "subprocess" }] := by
    decide +kernel
  rcases afterOverrides_merges (.environment hStart) steps with
    ⟨hSettings, -, hMake, -, hNothing⟩
  rw [hTaken] at hSettings
  have hLatest : config.settings = ⟨"", "subprocess", "DEBUG"⟩ :=
    hSettings.trans (by decide +kernel)
  have hSpawner : config.spawner.name = "subprocess".toList :=
    congrArg Settings.spawner hLatest
  rw [hSpawner] at hMake
  exact ⟨hStart, hTaken, hLatest, hMake, hNothing⟩

end Config

end LineShell
