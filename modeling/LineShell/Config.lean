import LineShell.Fault
import LineShell.Environment
import LineShell.Text.Upper
import LineShell.Trace

/-
  The configuration: a prompt, a way to start children, and a
  log level.

  `Settings` are the texts that are given for them; a
  `Config` is what they mean once they are validated.

  Main declarations:
    * `SpawnMethod`
    * `Config`
    * `Settings`
    * `Settings.validate`
    * `Config.ofEnvironment`
    * `Config.override`
-/

------------------------------------------------------------
-- Ways to Start Children
------------------------------------------------------------

namespace LineShell

/-
  How a child is started: by a call that also reports why it
  could not be, or by forking first, so that a failure is an
  ordinary exit of the fork.
-/
inductive SpawnMethod where
  | subprocess
  | fork
  deriving DecidableEq, Repr

namespace SpawnMethod

/- The name of a method. -/
def name :
    SpawnMethod → Text
  | subprocess => "subprocess"
  | fork => "fork"

/- The methods, by name in ascending order. -/
def all :
    List SpawnMethod :=
  [fork, subprocess]

/- The method of a name. -/
def named?
    (given : Text) : Option SpawnMethod :=
  all.find? (·.name == given)

/- Whether a platform offers the method. -/
def isAvailable
    (hasFork : Bool) : SpawnMethod → Bool
  | subprocess => true
  | fork => hasFork

/- The method of this name is not offered here. -/
def unavailable
    (given : Text) : Fault :=
  .config "spawner" given
    (some "fork spawner is not available on this platform")

/- The method of a name, on a platform with or without fork. -/
def make
    (hasFork : Bool)
    (given : Text) : Except Fault SpawnMethod :=
  match named? given with
  | none => .error (.missingKey given)
  | some method =>
      if method.isAvailable hasFork then
        .ok method
      else
        .error (unavailable given)

end SpawnMethod

namespace Level

/- The level of a name. -/
def named?
    (given : Text) : Option Level :=
  all.find? (·.name == given)

end Level

end LineShell

------------------------------------------------------------
-- Configurations
------------------------------------------------------------

namespace LineShell

/- A valid configuration. -/
structure Config where
  prompt : Text := "$ "
  spawner : SpawnMethod := .subprocess
  level : Level := .warning
  deriving DecidableEq

/- The texts given for a configuration. -/
structure Settings where
  prompt : Text
  spawner : Text
  level : Text
  deriving DecidableEq

namespace Settings

/-
  What settings mean.  The first of these that holds is the
  fault: the spawner is unknown, the platform does not offer
  it, the level in upper case is unknown.
-/
def validate
    (hasFork : Bool)
    (settings : Settings) : Except Fault Config :=
  match SpawnMethod.named? settings.spawner with
  | none => .error (.config "spawner" settings.spawner none)
  | some spawner =>
      if !spawner.isAvailable hasFork then
        .error (SpawnMethod.unavailable settings.spawner)
      else
        let level := Text.upper settings.level
        match Level.named? level with
        | none => .error (.config "log level" level none)
        | some level =>
            .ok ⟨settings.prompt, spawner, level⟩

end Settings

namespace Config

/- The settings that spell out a configuration. -/
def settings
    (config : Config) : Settings :=
  ⟨config.prompt, config.spawner.name, config.level.name⟩

/- A description for people. -/
def describe
    (config : Config) : Text :=
  "ShellConfig(prompt=" ++ Text.quoted config.prompt ++
    ", spawner=" ++ Text.quoted config.spawner.name ++
    ", log_level=" ++ Text.quoted config.level.name ++ ")"

end Config

end LineShell

------------------------------------------------------------
-- Sources of Settings
------------------------------------------------------------

namespace LineShell

/- Settings of which each may be left out. -/
structure Overrides where
  prompt : Option Text := none
  spawner : Option Text := none
  level : Option Text := none
  deriving DecidableEq

namespace Settings

/- The settings with those given put in their place. -/
def override
    (settings : Settings)
    (given : Overrides) : Settings :=
  ⟨given.prompt.getD settings.prompt,
    given.spawner.getD settings.spawner,
    given.level.getD settings.level⟩

/- The default settings. -/
def standard : Settings :=
  Config.settings {}

end Settings

namespace Config

/- A configuration from settings; those left out are standard. -/
def make
    (hasFork : Bool)
    (given : Overrides) : Except Fault Config :=
  (Settings.standard.override given).validate hasFork

/- The settings that environment variables give. -/
def environmentSettings
    (environment : Environment) : Overrides :=
  ⟨environment.get? "TINYSH_PROMPT",
    environment.get? "TINYSH_SPAWNER",
    environment.get? "TINYSH_LOG_LEVEL"⟩

/- The configuration that environment variables give. -/
def ofEnvironment
    (hasFork : Bool)
    (environment : Environment) : Except Fault Config :=
  make hasFork (environmentSettings environment)

/-
  The configuration with some settings replaced.  All of it is
  validated again, and a fault replaces nothing.
-/
def override
    (hasFork : Bool)
    (config : Config)
    (given : Overrides) : Except Fault Config :=
  (config.settings.override given).validate hasFork

end Config

end LineShell
