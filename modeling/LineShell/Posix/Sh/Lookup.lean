import LineShell.Posix.Sh.Settings

/-
  Finding the command of a name.

  A name with a slash is a path.  Other names can be those of
  functions, of commands of the shell itself, and of files in
  the directories of the search path.

  Main declarations:
    * `Posix.Sh.isBuiltin`
    * `Posix.Sh.Found`
    * `Posix.Sh.find`
    * `Posix.Sh.describeNames`
-/

------------------------------------------------------------
-- Commands of the Shell Itself
------------------------------------------------------------

namespace LineShell

namespace Posix

namespace Sh

/- The commands of the shell itself that are not special. -/
def ordinaryNames :
    List String :=
  ["[", "alias", "bg", "cd", "chdir", "command", "echo",
    "false", "fg", "getopts", "hash", "jobs", "kill",
    "printf", "pwd", "read", "test", "true", "type", "ulimit",
    "umask", "unalias", "wait"]

/-
  Whether a command is special: an error in it ends the
  script, and assignments before it last.
-/
def isSpecial
    (name : Text) : Bool :=
  specialNames.any (·.toList == name)

/- Whether a command is one of the shell itself. -/
def isBuiltin
    (name : Text) : Bool :=
  isSpecial name || ordinaryNames.any (·.toList == name)

/- Whether arguments of a command can be assignments. -/
def takesAssignments
    (name : Text) : Bool :=
  ["alias", "export", "local", "readonly"].any
    (·.toList == name)

end Sh

end Posix

end LineShell

------------------------------------------------------------
-- Finding
------------------------------------------------------------

namespace LineShell

namespace Posix

namespace Sh

/- The search path if nothing else is set. -/
def standardSearchPath : Text :=
  "/usr/local/sbin:/usr/local/bin:/usr/sbin:/usr/bin:" ++
    "/sbin:/bin"

/-
  What a name is: a function, a command of the shell itself,
  a file to be tried with others after it, or nothing, for a
  reason.
-/
inductive Found where
  | function (body : Command)
  | builtin
  | file (path : Text) (others : List Text)
  | missing (errno : Errno)

/- The search path of a script. -/
def State.searchPath
    (s : State) : Text :=
  (s.value? "PATH").getD []

/- The files that a name can mean along a search path. -/
def candidates
    (searchPath name : Text) : List Text :=
  (searchPath.splitOn ':').map fun directory =>
    if directory.isEmpty then name
    else directory ++ '/' :: name

/- Whether a reason is only that there is no such file. -/
def isAbsence
    (errno : Errno) : Bool :=
  errno = .noEntry || errno = .notDirectory

/- Why the file at a path cannot be the one that is meant. -/
def obstacle?
    (s : System)
    (path : Text) : Option Errno :=
  match s.tree.resolve true (Text.ofOctets path) with
  | .error errno => some errno
  | .ok id =>
      let mode := ((s.tree.node? id).map (·.mode)).getD 0
      if FileMode.isRegular mode &&
          FileMode.isExecutable mode then
        none
      else
        some .permissionDenied

/-
  The first file that can be meant, given the reason that is
  reported if there is none.
-/
def firstFile
    (s : System)
    (reason : Errno) : List Text → Found
  | [] => .missing reason
  | path :: rest =>
      match obstacle? s path with
      | none => .file path rest
      | some errno =>
          firstFile s (if isAbsence errno then reason else errno)
            rest

/-
  Find the command of a name along a search path; functions
  can be left out.
-/
def find
    (s : State)
    (name : Text)
    (searchPath : Text)
    (withFunctions : Bool := true) : Found :=
  if name.contains '/' then
    .file name []
  else
    let function? :=
      if withFunctions then Table.find? name s.functions
      else none
    match function? with
    | some body => .function body
    | none =>
        if isBuiltin name then
          .builtin
        else
          firstFile s.system .noEntry
            (candidates searchPath name)

/- What is said of a command that cannot be run. -/
def reasonOf
    (errno : Errno) : Text :=
  if isAbsence errno then "not found" else errno.text

/- Remember where a command was found, or that it was not. -/
def noteLocation
    (name : Text)
    (found : Found) : Act Unit :=
  modify fun s =>
    if name.contains '/' ||
        (Table.find? name s.functions).isSome then
      s
    else
      match found with
      | .file path _ =>
          { s with
            located := Table.put name ⟨path, false⟩ s.located }
      | .missing _ =>
          { s with located := Table.erase name s.located }
      | _ => s

end Sh

end Posix

end LineShell

------------------------------------------------------------
-- Describing
------------------------------------------------------------

namespace LineShell

namespace Posix

namespace Sh

/- What a name is, in words or only as what would be run. -/
def describeFound
    (isVerbose : Bool)
    (name : Text)
    (searchPath : Option Text) : Act Nat := do
  let s ← get
  let tell (words plain : Text) : Act Nat := do
    put (if isVerbose then name ++ words else plain)
    put "\n"
    return 0
  let missing : Act Nat := do
    if isVerbose then
      put (name ++ ": not found\n")
    return 127
  match searchPath, Table.find? name s.located with
  | none, some location =>
      tell (" is a tracked alias for ".toList ++ location.path)
        location.path
  | _, _ =>
      let found := find s name (searchPath.getD s.searchPath)
      if searchPath.isNone then
        noteLocation name found
      match found with
      | .function _ => tell " is a shell function" name
      | .builtin =>
          tell
            (if isSpecial name then
              " is a special shell builtin"
            else
              " is a shell builtin") name
      | .missing _ => missing
      | .file path _ =>
          if (s.process.node? path s.system).isSome then
            tell (" is ".toList ++ path) path
          else
            missing

/- What a name is; keywords and aliases come first. -/
def describeName
    (isVerbose : Bool)
    (searchPath : Option Text)
    (name : Text) : Act Nat := do
  let s ← get
  if (Keyword.ofText? name).isSome then
    put (name ++
      if isVerbose then " is a shell keyword\n" else "\n")
    return 0
  match Table.find? name s.aliases with
  | some text =>
      if isVerbose then
        put (name ++ " is an alias for ".toList ++ text ++ "\n")
      else
        put "alias "
        putAlias name text
      return 0
  | none => describeFound isVerbose name searchPath

/- What each name is; the answer joins the statuses. -/
def describeNames
    (isVerbose : Bool)
    (searchPath : Option Text) : List Text → Act Nat
  | [] => return 0
  | name :: rest => do
      let first ← describeName isVerbose searchPath name
      let later ← describeNames isVerbose searchPath rest
      return first ||| later

/- How many lists there are of places of commands. -/
def locationLists : Nat :=
  31

/- The number of the list that has the place of a command. -/
def locationList
    (name : Text) : Nat :=
  let start := 16 * (name.headD nul).toNat
  (name.foldl (fun n c => n + c.toNat) start % 0x8000) %
    locationLists

/- The places of commands in the order of their lists. -/
def orderedLocations
    (s : State) : List Location :=
  (List.range locationLists).flatMap fun n =>
    (s.located.filter (locationList ·.1 == n)).map (·.2)

/- Find commands and remember where they are. -/
def locateAll : List Text → Act Nat
  | [] => return 0
  | name :: rest => do
      let s ← get
      let found := find s name s.searchPath
      let status ←
        match found with
        | .missing errno => do
            warn (name ++ ": " ++ reasonOf errno)
            pure 1
        | found => do
            noteLocation name found
            pure 0
      let later ← locateAll rest
      return max status later

/- Write or find where commands are. -/
def locateCommands
    (args : List Text) : Act Nat := do
  let (options, names) ← readOptions "r" args
  if !options.isEmpty then
    modify fun s => { s with located := [] }
  else if names.isEmpty then
    for location in orderedLocations (← get) do
      put (location.path ++
        if location.isOld then "*\n" else "\n")
  locateAll names

end Sh

end Posix

end LineShell
