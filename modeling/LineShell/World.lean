import LineShell.Action
import LineShell.Builtin
import LineShell.Machine
import LineShell.Streams

/-
  The state that commands act on, and the elementary actions.

  Main declarations:
    * `World`
    * `World.operate`
    * `World.write`
    * `World.flush`
    * `World.log`
    * `World.enterDirectory`
    * `World.launch`
-/

------------------------------------------------------------
-- State
------------------------------------------------------------

namespace LineShell

/-
  The environment, the host's files and devices, the builtins,
  the output streams, and the status of the last command that
  completed.
-/
structure World (φ δ : Type) where
  environment : Environment
  files : φ
  device : δ
  builtins : Registry := Registry.standard
  streams : Streams := {}
  lastStatus : Int := 0

namespace World

variable {φ δ : Type}

/- The world once an operation was asked of a stream. -/
def asked
    (w : World φ δ)
    (channel : Channel)
    (operation : Operation) : World φ δ :=
  { w with streams := w.streams.after channel operation }

end World

end LineShell

------------------------------------------------------------
-- Elementary Actions
------------------------------------------------------------

namespace LineShell

namespace World

variable {φ δ : Type}

/-
  Ask an operation of a stream.  It leaves its event, unless
  it fails with a fault of the stream.
-/
def operate
    (channel : Channel)
    (operation : Operation)
    (event : Event) : Action (World φ δ) Unit :=
  fun w =>
    match w.streams.answer channel operation with
    | none => ⟨.ok (), w.asked channel operation, [event]⟩
    | some fault =>
        ⟨.error fault, w.asked channel operation, []⟩

/- Write to a stream. -/
def write
    (channel : Channel)
    (text : Text) : Action (World φ δ) Unit :=
  operate channel .write (.wrote channel text)

/- Pass on all that was written to a stream. -/
def flush
    (channel : Channel) : Action (World φ δ) Unit :=
  operate channel .flush (.flushed channel)

/- Make a log record of the lowest level. -/
def log
    (source : Source)
    (message : Text) : Action (World φ δ) Unit :=
  Action.emit (.logged ⟨.debug, source, message⟩)

/- Remember the status of a completed command. -/
def remember
    (status : Int) : Action (World φ δ) Unit :=
  Action.update fun w => { w with lastStatus := status }

/- The working directory. -/
def workingDirectory
    (M : Machine φ δ) : Action (World φ δ) Path :=
  fun w =>
    Action.ofExcept (M.files.workingDirectory w.files) w

/- Make a directory the working directory. -/
def enterDirectory
    (M : Machine φ δ)
    (path : Path) : Action (World φ δ) Unit :=
  fun w =>
    match M.files.enter w.files path with
    | .ok files =>
        ⟨.ok (), { w with files := files }, [.moved path]⟩
    | .error fault => ⟨.error fault, w, [.moved path]⟩

/- Start a child and wait for it. -/
def launch
    (M : Machine φ δ)
    (request : Request) : Action (World φ δ) Int :=
  fun w =>
    let launch :=
      M.launch w.environment w.files w.device request
    ⟨launch.result,
      { w with files := launch.files, device := launch.device },
      .launched request ::
        launch.writes.map fun (channel, text) =>
          .childWrote channel text⟩

end World

end LineShell
