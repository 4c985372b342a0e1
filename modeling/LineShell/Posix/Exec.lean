import LineShell.Posix.Cat
import LineShell.Posix.Interpreter
import LineShell.Posix.Sh.Startup

/-
  Becoming another program.

  A regular file that somebody may execute is run: a program
  of the host as such, and a script by the interpreter that
  its first line names.

  Main declarations:
    * `Posix.load`
    * `Posix.execWithin`
    * `Posix.kernel`
    * `Posix.machine`
-/

------------------------------------------------------------
-- Loading
------------------------------------------------------------

namespace LineShell

namespace Posix

/- The longest argument, in octets. -/
def longestArgument : Nat :=
  131071

/- How many interpreters can stand behind each other. -/
def mostInterpreters : Nat :=
  5

/- What the file at a path holds, if it can be executed. -/
def executable
    (s : System)
    (path : Text) : Except Errno Content := do
  let id ← s.tree.resolve true (Text.ofOctets path)
  match s.tree.node? id with
  | none => .error .noEntry
  | some node =>
      if FileMode.isRegular node.mode &&
          FileMode.isExecutable node.mode then
        .ok node.content
      else
        .error .permissionDenied

/-
  What an interpreter holds.  No name at all leads to the
  working directory.
-/
def interpreter
    (s : System)
    (name : Text) : Except Errno Content :=
  if name.isEmpty then
    .error .permissionDenied
  else
    executable s name

/-
  The program that runs a file, given its path and content,
  and the arguments that the program gets.  The first argument
  bounds how many files can stand behind each other.
-/
def loadWithin
    (s : System) :
    Nat → List Text → Text → Content →
      Except Errno (Program × List Text)
  | 0, _, _, _ => .error .tooManyLinks
  | fuel + 1, argv, path, content => do
      match content with
      | .program program => return (program, argv)
      | .file octets =>
          match interpreter? octets with
          | none => .error .execFormat
          | some (name, argument) =>
              let inner ← interpreter s name
              loadWithin s fuel
                (name :: argument.toList ++ path :: argv.tail)
                name inner
      | _ => .error .execFormat

/- The program that runs the file at a path. -/
def load
    (s : System)
    (argv : List Text)
    (path : Text) : Except Errno (Program × List Text) := do
  let content ← executable s path
  loadWithin s (mostInterpreters + 1) argv path content

/- Whether a process gets more than it can be given. -/
def isTooLarge
    (p : Process) : Bool :=
  p.argv.any (longestArgument < ·.length) ||
    p.environment.any fun (name, value) =>
      longestArgument < name.length + 1 + value.length

end Posix

end LineShell

------------------------------------------------------------
-- Executing
------------------------------------------------------------

namespace LineShell

namespace Posix

/- How deep processes can be nested. -/
def mostProcesses : Nat :=
  10000

/- How deep commands can be nested. -/
def mostCommands : Nat :=
  1000000

/-
  Run the file at a path in place of a process.  The first
  argument bounds how deep processes can be nested.
-/
def execWithin :
    Nat → Process → Text → System →
      Except Errno (Ending × System)
  | 0, _, _, _ => .error .tooManyLinks
  | fuel + 1, p, path, s => do
      if isTooLarge p then
        throw .argumentsTooLong
      let (program, argv) ← load s p.argv path
      let started := { p with argv := argv }
      match program with
      | .cat => return Cat.run started s
      | .sh =>
          return Sh.run (execWithin fuel) mostCommands started s

/- Run the file at a path in place of a process. -/
def exec
    (p : Process)
    (path : Text)
    (s : System) : Except Errno (Ending × System) :=
  execWithin mostProcesses p path s

end Posix

end LineShell

------------------------------------------------------------
-- Starting Children
------------------------------------------------------------

namespace LineShell

namespace Posix

/-
  The octets of the standard input, and how many of them have
  been read.
-/
structure Devices where
  input : Text
  offset : Nat := 0

/- The directories searched when the environment names none. -/
def standardPath : Text :=
  "/bin:/usr/bin"

/-
  The paths that a request can mean.  The first method looks
  for a name without a slash along the search path.
-/
def places
    (method : SpawnMethod)
    (environment : Environment)
    (path : Path) : List Path :=
  if method = .fork || path.contains '/' then
    [path]
  else
    ((environment.searchPath.getD standardPath).splitOn ':').map
      (Path.under · path)

/-
  Run the first of several files that can be run.  If none
  can, the failure is the first that is not about a missing
  file, or else the last.
-/
def execFirst
    (p : Process)
    (s : System)
    (kept : Option Errno) :
    List Path → Except Errno (Ending × System)
  | [] => .error (kept.getD .noEntry)
  | path :: rest =>
      match exec p (Text.octets path) s with
      | .ok run => .ok run
      | .error errno =>
          let isMissing :=
            errno = .noEntry || errno = .notDirectory
          match kept, rest with
          | some kept, _ => execFirst p s (some kept) rest
          | none, [] => .error errno
          | none, _ =>
              if isMissing then
                execFirst p s none rest
              else
                execFirst p s (some errno) rest

/-
  Whether a method does not accept a request: no text may hold
  a NUL, and a fork needs a name to run under.
-/
def refuses
    (method : SpawnMethod)
    (request : Request) : Bool :=
  (request.path :: request.argv).any (·.contains nul) ||
    (method = .fork && (request.argv.headD []).isEmpty)

/- The signals that a child ignores from its start. -/
def inherited :
    SpawnMethod → List Nat
  | .subprocess => []
  | .fork => Signal.ignoredByInterpreter

/- The open files that a child starts with. -/
def streams
    (offset : Nat) : List OpenFile :=
  let output (channel : Channel) : OpenFile :=
    { target := .file (Tree.streamFile channel) 0
      reads := false, writes := true, appends := true }
  [
    { target := .file Tree.inputFile offset
      reads := true, writes := false },
    output .out,
    output .err
  ]

/- The process that a request starts. -/
def processOf
    (method : SpawnMethod)
    (environment : Environment)
    (request : Request) : Process where
  number := 2
  parent := 1
  argv := request.argv.map Text.octets
  environment := environment.map fun (name, value) =>
    (Text.octets name, Text.octets value)
  descriptors := [(0, 0), (1, 1), (2, 2)]
  ignored := inherited method

namespace System

/- The system that a child starts in. -/
def started
    (tree : Tree)
    (devices : Devices) : System where
  tree := tree.setContent Tree.inputFile (.file devices.input)
  opened := streams devices.offset

/- How much of the standard input has been read. -/
def inputOffset
    (s : System) : Nat :=
  match s.opened.head? with
  | some ⟨.file _ offset, _, _, _⟩ => offset
  | _ => 0

/- What the standard input holds, and how much was read. -/
def devices
    (s : System) : Devices :=
  match s.tree.content Tree.inputFile with
  | .file octets => ⟨octets, s.inputOffset⟩
  | _ => ⟨[], 0⟩

/- The texts that reached the streams. -/
def texts
    (s : System) : List (Channel × Text) :=
  [Channel.out, Channel.err].filterMap fun channel =>
    match s.tree.content (Tree.streamFile channel) with
    | .file [] => none
    | .file octets => some (channel, Text.ofOctets octets)
    | _ => none

/-
  The tree that a child leaves behind, whose streams hold
  nothing and in which the parent stands where it stood.
-/
def leftTree
    (s : System)
    (here : Nat) : Tree :=
  let emptied :=
    [Tree.inputFile, Tree.streamFile .out,
      Tree.streamFile .err].foldl
      (fun t id => t.setContent id (.file [])) s.tree
  { emptied with here := here }

end System

/- What the host does with requests made by a method. -/
def kernel
    (method : SpawnMethod) : Kernel Tree Devices :=
  fun environment tree devices request =>
    if refuses method request then
      ⟨.refused, tree, devices, []⟩
    else
      match execFirst (processOf method environment request)
          (System.started tree devices) none
          (places method environment request.path) with
      | .ok (ending, after) =>
          ⟨.ended ending, after.leftTree tree.here,
            after.devices, after.texts⟩
      | .error errno =>
          ⟨.failed errno.text, tree, devices, []⟩

/- The host, with one of the methods to start children. -/
def machine
    (method : SpawnMethod) : Machine Tree Devices :=
  Kernel.machine fileSystem (kernel method) method

end Posix

end LineShell
