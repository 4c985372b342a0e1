import LineShell.Posix.Sh.Arguments

/-
  The working directory of a script.

  A script knows its directory by a name, which leads through
  the links that it went through; the physical name is the one
  without links.

  Main declarations:
    * `Posix.Sh.normalized`
    * `Posix.Sh.setDirectory`
    * `Posix.Sh.changeDirectory`
    * `Posix.Sh.printDirectory`
-/

------------------------------------------------------------
-- Names
------------------------------------------------------------

namespace LineShell

namespace Posix

namespace Sh

/- The names of a path that are left, the last one first. -/
def normalizedFrom
    (names : List Text) : List Text → List Text
  | [] => names
  | name :: rest =>
      if name.isEmpty ∨ name = ['.'] then
        normalizedFrom names rest
      else if name = ['.', '.'] then
        normalizedFrom names.tail rest
      else
        normalizedFrom (name :: names) rest

/-
  A path from a directory, by its text alone.  Two slashes at
  the beginning are kept, but not more.
-/
def normalized
    (directory path : Text) : Text :=
  let whole :=
    if Text.beginsWith '/' path then path
    else if Text.endsWith '/' directory then directory ++ path
    else directory ++ '/' :: path
  let root : Text :=
    if whole.take 2 = ['/', '/'] && whole[2]? != some '/' then
      ['/', '/']
    else
      ['/']
  let names := normalizedFrom [] (whole.splitOn '/')
  root ++ ['/'].intercalate names.reverse

/- The physical name of the directory; there may be none. -/
def physicalDirectory : Act Text := do
  match (← get).system.tree.path? with
  | some path => return Text.octets path
  | none =>
      warn ("getcwd() failed: " ++ Errno.noEntry.text)
      return []

/-
  Set the name of the directory, or let it be the physical
  one.
-/
def setDirectory
    (name : Option Text) : Act Unit := do
  let before := (← get).directory
  let (name, physical) ←
    match name with
    | none => do
        let physical ← physicalDirectory
        pure (physical, physical)
    | some name =>
        if name = before then
          pure (name, ← physicalDirectory)
        else
          pure (name, [])
  modify fun s =>
    { s with directory := name, physical := physical }
  assignVariable "PWD" name
  exportVariable "PWD"

end Sh

end Posix

end LineShell

------------------------------------------------------------
-- Changing
------------------------------------------------------------

namespace LineShell

namespace Posix

namespace Sh

/-
  Go to a directory, by its text or by its links; the answer
  tells whether that was possible.
-/
def enterDirectory
    (isPhysical : Bool)
    (path : Text) : Act Bool := do
  let s ← get
  let name : Option Text :=
    if isPhysical ||
        (s.directory.isEmpty && !Text.beginsWith '/' path) then
      none
    else
      some (normalized s.directory path)
  match s.system.tree.enter (Text.ofOctets (name.getD path)) with
  | .error _ => return false
  | .ok tree =>
      set { s with system := { s.system with tree := tree } }
      assignVariable "OLDPWD" s.directory
      exportVariable "OLDPWD"
      setDirectory name
      modify fun s =>
        { s with
          located := s.located.map fun (name, location) =>
            (name, { location with isOld := true }) }
      return true

/- Whether a path is not looked for along a search path. -/
def isDirect
    (path : Text) : Bool :=
  let first := path.takeWhile (· != '/')
  Text.beginsWith '/' path || first = ['.'] ||
    first = ['.', '.']

/- Whether a path leads to a directory. -/
def isDirectory
    (path : Text)
    (s : System) : Bool :=
  match s.tree.resolve true (Text.ofOctets path) with
  | .ok id =>
      match s.tree.content id with
      | .directory .. => true
      | _ => false
  | .error _ => false

/-
  The first directory of that name along a search path, and
  whether it is not in the directory itself.
-/
def alongPath
    (s : System)
    (path : Text) : List Text → Option (Text × Bool)
  | [] => none
  | place :: rest =>
      let candidate :=
        if place.isEmpty then path
        else place ++ '/' :: path
      if isDirectory candidate s then
        some (candidate, !place.isEmpty)
      else
        alongPath s path rest

/- Whether the last of some options is a P. -/
def lastIsPhysical
    (options : List (Char × Text)) : Bool :=
  match options.getLast? with
  | some (c, _) => c == 'P'
  | none => false

/- Go to another directory. -/
def changeDirectory
    (args : List Text) : Act Nat := do
  let (options, operands) ← readOptions "LP" args
  let isPhysical := lastIsPhysical options
  let s ← get
  let (wanted, isBack) : Text × Bool :=
    match operands with
    | [] => ((s.value? "HOME").getD [], false)
    | ['-'] :: _ => ((s.value? "OLDPWD").getD [], true)
    | path :: _ => (path, false)
  let (path, isFound) :=
    if isDirect wanted then
      (wanted, false)
    else
      let path := if wanted.isEmpty then ['.'] else wanted
      match alongPath s.system path
          (((s.value? "CDPATH").getD []).splitOn ':') with
      | some (path, isElsewhere) => (path, isElsewhere)
      | none => (wanted, false)
  if ← enterDirectory isPhysical path then
    if isBack || isFound then
      put ((← get).directory ++ ['\n'])
    return 0
  else
    fail ("can't cd to " ++ wanted)

/- Write the working directory. -/
def printDirectory
    (args : List Text) : Act Nat := do
  let (options, _) ← readOptions "LP" args
  if lastIsPhysical options then
    let s ← get
    if s.physical.isEmpty then
      setDirectory (some s.directory)
    put ((← get).physical ++ ['\n'])
  else
    put ((← get).directory ++ ['\n'])
  return 0

end Sh

end Posix

end LineShell
