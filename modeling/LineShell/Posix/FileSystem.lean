import LineShell.Posix.Tree

/-
  The file system of a process that stands in a tree.

  Main declarations:
    * `Posix.Tree.mode`
    * `Posix.Tree.enter`
    * `Posix.Tree.workingDirectory`
    * `Posix.fileSystem`
-/

------------------------------------------------------------
-- Operations
------------------------------------------------------------

namespace LineShell

namespace Posix

namespace Tree

/- Do something with a path, unless it holds a NUL. -/
def withPath
    (path : Path)
    (act : Except Errno α) : Except Fault α :=
  if path.contains nul then
    .error embeddedNul
  else
    act.mapError (·.faultAt path)

/- The mode of the file that a path leads to. -/
def mode
    (t : Tree)
    (path : Path) : Except Fault FileMode :=
  withPath path do
    let id ← t.resolve true path
    match t.node? id with
    | some node => .ok node.mode
    | none => .error .noEntry

/- Stand in another directory. -/
def enter
    (t : Tree)
    (path : Path) : Except Fault Tree :=
  withPath path do
    let id ← t.resolve true path
    match t.content id with
    | .directory .. => .ok { t with here := id }
    | _ => .error .notDirectory

/- The names from the root to a directory, last first. -/
def namesTo
    (t : Tree) : Nat → Nat → Option (List Text)
  | 0, _ => none
  | fuel + 1, id =>
      if id = root then
        some []
      else
        match t.content id with
        | .directory parent _ =>
            match t.content parent with
            | .directory _ entries => do
                let entry ← List.find? (·.2 == id) entries
                let above ← namesTo t fuel parent
                return entry.1 :: above
            | _ => none
        | _ => none

/- The path of the directory that the process stands in. -/
def path?
    (t : Tree) : Option Path :=
  (t.namesTo t.nodes.length t.here).map fun names =>
    '/' :: ['/'].intercalate names.reverse

/- The working directory, unless it was removed. -/
def workingDirectory
    (t : Tree) : Except Fault Path :=
  match t.path? with
  | some path => .ok path
  | none => .error Errno.noEntry.fault

end Tree

/- The tree as a file system. -/
def fileSystem : FileSystem Tree where
  mode := Tree.mode
  workingDirectory := Tree.workingDirectory
  enter := Tree.enter

end Posix

end LineShell
