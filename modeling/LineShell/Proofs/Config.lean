import LineShell.Config

/-
  Which settings are valid, and what they mean.

  Settings mean the configuration that they spell out, with the
  level in upper case.  What validation refuses is always a
  fault of the configuration.

  Main declarations:
    * `SpawnMethod.named?_eq_some_iff`
    * `Level.named?_eq_some_iff`
    * `Settings.normalized`
    * `Settings.Valid`
    * `Settings.validate_eq_ok_iff`
    * `Settings.validate_answers_iff`
-/

------------------------------------------------------------
-- Names
------------------------------------------------------------

namespace LineShell

namespace SpawnMethod

/- The texts that name a method. -/
def IsName
    (given : Text) : Prop :=
  given = "subprocess".toList ∨ given = "fork".toList

instance (given : Text) : Decidable (IsName given) :=
  inferInstanceAs (Decidable (_ ∨ _))

theorem named?_eq_some_iff
    {given : Text}
    {method : SpawnMethod} :
    named? given = some method ↔ method.name = given := by
  constructor
  · intro hNamed
    unfold named? at hNamed
    have hName := List.find?_some hNamed
    exact eq_of_beq hName
  · rintro rfl
    cases method with
    | subprocess => rfl
    | fork => rfl

theorem isName_iff
    {given : Text} :
    IsName given ↔ ∃ method, name method = given := by
  constructor
  · rintro (rfl | rfl)
    · exact ⟨subprocess, rfl⟩
    · exact ⟨fork, rfl⟩
  · rintro ⟨method, rfl⟩
    cases method with
    | subprocess => exact Or.inl rfl
    | fork => exact Or.inr rfl

/- Only forking can be out of reach. -/
theorem isAvailable_iff
    {hasFork : Bool}
    {method : SpawnMethod} :
    method.isAvailable hasFork = true ↔
      (method.name = "fork".toList → hasFork = true) := by
  cases method with
  | subprocess =>
      refine iff_of_true rfl ?_
      intro hName
      exact absurd hName (by decide)
  | fork =>
      constructor
      · exact fun hFork _ => hFork
      · exact fun hFork => hFork rfl

end SpawnMethod

namespace Level

/- The texts that name a level. -/
def IsName
    (given : Text) : Prop :=
  given ∈ ["DEBUG".toList, "INFO".toList, "WARNING".toList,
    "ERROR".toList, "CRITICAL".toList]

instance (given : Text) : Decidable (IsName given) :=
  inferInstanceAs (Decidable (given ∈ _))

theorem named?_eq_some_iff
    {given : Text}
    {level : Level} :
    named? given = some level ↔ level.name = given := by
  constructor
  · intro hNamed
    unfold named? at hNamed
    have hName := List.find?_some hNamed
    exact eq_of_beq hName
  · rintro rfl
    cases level with
    | _ => rfl

theorem isName_iff
    {given : Text} :
    IsName given ↔ ∃ level, name level = given := by
  constructor
  · intro hName
    have hMapped : given ∈ all.map name := hName
    rcases List.mem_map.1 hMapped with ⟨level, -, hLevel⟩
    exact ⟨level, hLevel⟩
  · rintro ⟨level, rfl⟩
    cases level with
    | _ => decide

/- The names of levels are in upper case. -/
theorem upper_of_isName
    {given : Text}
    (hName : IsName given) :
    Text.upper given = given := by
  rcases isName_iff.1 hName with ⟨level, rfl⟩
  cases level with
  | _ => decide +kernel

end Level

end LineShell

------------------------------------------------------------
-- Valid Settings
------------------------------------------------------------

namespace LineShell

namespace Settings

/- The settings with the level in upper case. -/
def normalized
    (settings : Settings) : Settings :=
  ⟨settings.prompt, settings.spawner, Text.upper settings.level⟩

/-
  Settings name a way to start children that the platform
  offers, and a level, in whatever case.
-/
structure Valid
    (hasFork : Bool)
    (settings : Settings) : Prop where
  spawner : SpawnMethod.IsName settings.spawner
  offered : settings.spawner = "fork".toList → hasFork = true
  level : Level.IsName (Text.upper settings.level)

variable {hasFork : Bool}
variable {settings : Settings}
variable {config : Config}
variable {fault : Fault}

/- Settings mean the configuration that they spell out. -/
theorem validate_eq_ok_iff :
    settings.validate hasFork = .ok config ↔
      config.settings = settings.normalized ∧
        (settings.spawner = "fork".toList → hasFork = true) := by
  unfold validate
  constructor
  · intro hValid
    split at hValid
    · cases hValid
    · next method hMethod =>
        rw [SpawnMethod.named?_eq_some_iff] at hMethod
        split at hValid
        · cases hValid
        · next hOffered =>
            rw [Bool.not_eq_true, Bool.not_eq_false',
              SpawnMethod.isAvailable_iff, hMethod] at hOffered
            dsimp only at hValid
            split at hValid
            · cases hValid
            · next level hLevel =>
                rw [Level.named?_eq_some_iff] at hLevel
                cases hValid
                refine ⟨?_, hOffered⟩
                unfold Config.settings normalized
                rw [hMethod, hLevel]
  · rintro ⟨hSettings, hOffered⟩
    rcases config with ⟨prompt, method, level⟩
    have hPrompt : prompt = settings.prompt :=
      congrArg Settings.prompt hSettings
    have hMethod : method.name = settings.spawner :=
      congrArg Settings.spawner hSettings
    have hLevel : level.name = Text.upper settings.level :=
      congrArg Settings.level hSettings
    rw [← hMethod, ← SpawnMethod.isAvailable_iff] at hOffered
    rw [SpawnMethod.named?_eq_some_iff.2 hMethod]
    simp only [hOffered, Bool.not_true, Bool.false_eq_true,
      if_false]
    rw [Level.named?_eq_some_iff.2 hLevel, hPrompt]

/- Exactly the valid settings mean something. -/
theorem validate_answers_iff :
    (∃ config, settings.validate hasFork = .ok config) ↔
      settings.Valid hasFork := by
  constructor
  · rintro ⟨config, hConfig⟩
    rcases validate_eq_ok_iff.1 hConfig with
      ⟨hSettings, hOffered⟩
    refine ⟨?_, hOffered, ?_⟩
    · exact SpawnMethod.isName_iff.2
        ⟨config.spawner, congrArg Settings.spawner hSettings⟩
    · exact Level.isName_iff.2
        ⟨config.level, congrArg Settings.level hSettings⟩
  · intro hValid
    rcases SpawnMethod.isName_iff.1 hValid.spawner with
      ⟨method, hMethod⟩
    rcases Level.isName_iff.1 hValid.level with ⟨level, hLevel⟩
    refine ⟨⟨settings.prompt, method, level⟩, ?_⟩
    rw [validate_eq_ok_iff]
    refine ⟨?_, hValid.offered⟩
    unfold Config.settings normalized
    rw [hMethod, hLevel]

/- Whatever is refused is a fault of the configuration. -/
theorem validate_fault
    (hFault : settings.validate hasFork = .error fault) :
    ∃ option given detail,
      fault = .config option given detail := by
  unfold validate at hFault
  split at hFault
  · cases hFault
    exact ⟨_, _, _, rfl⟩
  · split at hFault
    · cases hFault
      exact ⟨_, _, _, rfl⟩
    · dsimp only at hFault
      split at hFault
      · cases hFault
        exact ⟨_, _, _, rfl⟩
      · cases hFault

end Settings

end LineShell
