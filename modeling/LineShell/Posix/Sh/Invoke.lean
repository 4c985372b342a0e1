import LineShell.Posix.Sh.Expansion
import LineShell.Posix.Sh.Lookup

/-
  Running files: as programs, and as scripts in place.

  A file that the host cannot run is run as a script by a
  shell of its own, if it looks like one.

  Main declarations:
    * `Posix.Sh.looksLikeScript`
    * `Posix.Sh.becomeFile`
    * `Posix.Sh.runFile`
    * `Posix.Sh.sourceFile`
    * `Posix.Sh.evaluateText`
-/

------------------------------------------------------------
-- Becoming a Program
------------------------------------------------------------

namespace LineShell

namespace Posix

namespace Sh

/- The path of the shell itself. -/
def ownPath : Text :=
  "/bin/sh"

/- Whether no text has such an octet. -/
def isForeign
    (c : Char) : Bool :=
  c.val ≤ 8 ||
    (0x10 ≤ c.val && c.val < 0x20 && c.val ≠ 0x1b) ||
    c.val = 0x7f

/- Whether a file looks like a script, by its first line. -/
def looksLikeScript
    (octets : Text) : Bool :=
  !((octets.take 128).takeWhile (· != '\n')).any isForeign

/- The process that a script starts programs with. -/
def State.launching
    (s : State)
    (argv : List Text) : Process :=
  let ignored := (s.traps.filter (·.2.isEmpty)).map (·.1)
  { s.process with
    argv := argv
    environment := s.exported
    ignored := s.process.ignored ++ ignored }

/- The octets of the file at a path. -/
def octetsAt
    (p : Process)
    (path : Text)
    (s : System) : Text :=
  match p.node? path s with
  | some node =>
      match node.content with
      | .file octets => octets
      | _ => []
  | none => []

/- Run the file at a path, if need be as a script. -/
def execute
    (calls : Calls)
    (p : Process)
    (path : Text)
    (s : System) : Except Errno (Ending × System) :=
  match calls.execute p path s with
  | .error .execFormat =>
      if looksLikeScript (octetsAt p path s) then
        calls.execute
          { p with argv := ownPath :: path :: p.argv.tail }
          ownPath s
      else
        .error .execFormat
  | result => result

/-
  Run the first of some files that can be run.  The reason
  that is kept is the last one that is more than absence.
-/
def executeFirst
    (calls : Calls)
    (p : Process)
    (s : System)
    (reason : Errno) :
    List Text → Except Errno (Ending × System)
  | [] => .error reason
  | path :: rest =>
      match execute calls p path s with
      | .ok result => .ok result
      | .error errno =>
          executeFirst calls p s
            (if isAbsence errno then reason else errno) rest

/- The status of a script whose command could not be run. -/
def statusFor
    (errno : Errno) : Nat :=
  if isAbsence errno || errno = .tooManyLinks ||
      errno = .nameTooLong then
    127
  else
    126

/- Become the first of some files that can be run. -/
def becomeFile
    (calls : Calls)
    (argv : List Text)
    (paths : List Text) : Act α := do
  let s ← get
  match executeFirst calls (s.launching argv) s.system .noEntry
      paths with
  | .ok (ending, system) =>
      set { s with system := system }
      throw (.gone ending)
  | .error errno =>
      setStatus (statusFor errno)
      warn (argv.headD [] ++ ": " ++ reasonOf errno)
      throw .finished

/-
  Run the first of some files that can be run, as a process of
  its own, or in place of the script if nothing follows.
-/
def runFile
    (calls : Calls)
    (manner : Manner)
    (argv : List Text)
    (paths : List Text) : Act Nat := do
  let s ← get
  if manner.isLast && s.traps.all (·.2.isEmpty) then
    becomeFile calls argv paths
  else
    awaited (← inSubshell calls (becomeFile calls argv paths))

/- Let a program take the place of the script. -/
def becomeCommand
    (calls : Calls)
    (args : List Text) : Act Nat := do
  match args with
  | [] => return 0
  | name :: _ =>
      let s ← get
      let paths :=
        if name.contains '/' then [name]
        else candidates s.searchPath name
      becomeFile calls args paths

end Sh

end Posix

end LineShell

------------------------------------------------------------
-- Scripts in Place
------------------------------------------------------------

namespace LineShell

namespace Posix

namespace Sh

/- Run arguments as a text. -/
def evaluateText
    (calls : Calls)
    (isTested : Bool)
    (args : List Text) : Act Nat :=
  if args.isEmpty then
    return 0
  else
    runText calls (Text.unwords args) { isTested := isTested }

/- The script that a name means. -/
def scriptPath
    (name : Text) : Act Text := do
  let s ← get
  if name.contains '/' then
    return name
  else
    let isScript (path : Text) : Bool :=
      match s.process.node? path s.system with
      | some node => FileMode.isRegular node.mode
      | none => false
    match (candidates s.searchPath name).find? isScript with
    | some path => return path
    | none => fail (name ++ ": not found")

/- What a file that is opened to be run as a script holds. -/
def scriptText
    (path : Text) : Act Text := do
  let s ← get
  let opened := do
    let (id, system) ← s.process.openPath path .read s.system
    system.take id
  match opened with
  | .ok (text, system) =>
      set { s with system := system }
      return text
  | .error .isDirectory => return []
  | .error errno =>
      let reason : Text :=
        if isAbsence errno then "No such file" else errno.text
      fail ("cannot open " ++ path ++ ": " ++ reason)

/- Run a file as a part of the script. -/
def sourceFile
    (calls : Calls)
    (args : List Text) : Act Nat := do
  let (_, operands) ← readOptions [] args
  match operands with
  | [] => return 0
  | name :: _ =>
      let path ← scriptPath name
      let text ← scriptText path
      modify fun s => { s with command := some path }
      let status ← runWithinText calls .part
        (text.filter (· != nul))
      modify fun s =>
        match s.skipping with
        | .returning _ => { s with skipping := .none }
        | _ => s
      return status

end Sh

end Posix

end LineShell
