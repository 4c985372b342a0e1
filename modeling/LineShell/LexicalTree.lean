import LineShell.Machine

/-
  A file tree in memory, keyed by normalised paths, and a
  machine over it whose children all end alike.

  Paths are resolved by their text alone: there are no links,
  no directory has to exist for its entries to, and a failure
  can be arranged at any path.

  Main declarations:
    * `LexicalTree`
    * `LexicalTree.normalize`
    * `LexicalTree.lookup`
    * `LexicalTree.enter`
    * `LexicalTree.fileSystem`
    * `LexicalTree.machine`
-/

------------------------------------------------------------
-- Trees
------------------------------------------------------------

namespace LineShell

/-
  The working directory, the modes and the arranged failures
  by normalised path, and a failure to tell the working
  directory.
-/
structure LexicalTree where
  directory : Path := "/"
  nodes : Table FileMode :=
    [("/", FileMode.ordinaryDirectory)]
  faults : Table Fault := []
  directoryFault : Option Fault := none

namespace LexicalTree

/- A tree of directories and of files with their modes. -/
def build
    (directory : Path)
    (dirs : List Path)
    (files : List (Path × FileMode)) : LexicalTree :=
  { directory := directory
    nodes := Table.ofList <|
      (("/" : Path), FileMode.ordinaryDirectory) ::
        dirs.map (·, FileMode.ordinaryDirectory) ++ files }

end LexicalTree

end LineShell

------------------------------------------------------------
-- Normalised Paths
------------------------------------------------------------

namespace LineShell

namespace LexicalTree

/-
  Take one more part of a path; the parts so far are given
  last first.
-/
def pushPart
    (parts : List Text)
    (part : Text) : List Text :=
  if part = [] ∨ part = ['.'] then
    parts
  else if part = ['.', '.'] then
    parts.tail
  else
    part :: parts

/- The parts of a path, last first. -/
def partsOf
    (path : Path) : List Text :=
  (path.splitOn '/').foldl pushPart []

/- The absolute path of some parts, given last first. -/
def ofParts
    (parts : List Text) : Path :=
  '/' :: ['/'].intercalate parts.reverse

/- A path made absolute by the working directory. -/
def absolute
    (directory path : Path) : Path :=
  if Text.beginsWith '/' path then
    path
  else
    directory ++ '/' :: path

/- The normalised absolute path. -/
def normalize
    (directory path : Path) : Path :=
  ofParts (partsOf (absolute directory path))

end LexicalTree

end LineShell

------------------------------------------------------------
-- Looking Up
------------------------------------------------------------

namespace LineShell

namespace LexicalTree

/- The mode at a path. -/
def lookup
    (tree : LexicalTree)
    (path : Path) : Except Fault FileMode :=
  if path.contains nul then
    .error embeddedNul
  else if path.isEmpty then
    .error Errno.noEntry.fault
  else
    let key := normalize tree.directory path
    match tree.faults.find? key with
    | some fault => .error fault
    | none =>
        match tree.nodes.find? key with
        | none => .error Errno.noEntry.fault
        | some mode =>
            if Text.endsWith '/' path &&
                !FileMode.isDirectory mode then
              .error Errno.notDirectory.fault
            else
              .ok mode

/- The tree with another working directory. -/
def enter
    (tree : LexicalTree)
    (path : Path) : Except Fault LexicalTree := do
  let mode ← tree.lookup path
  if FileMode.isDirectory mode then
    .ok { tree with directory := normalize tree.directory path }
  else
    .error Errno.notDirectory.fault

/- What is looked up decides whether a directory is entered. -/
theorem enter_eq
    (tree : LexicalTree)
    (path : Path) :
    tree.enter path =
      match tree.lookup path with
      | .error fault => .error fault
      | .ok mode =>
          if FileMode.isDirectory mode then
            .ok { tree with
              directory := normalize tree.directory path }
          else
            .error Errno.notDirectory.fault := by
  unfold enter
  cases tree.lookup path with
  | error fault => rfl
  | ok mode => rfl

/- The working directory as it was set. -/
def workingDirectory
    (tree : LexicalTree) : Except Fault Path :=
  match tree.directoryFault with
  | some fault => .error fault
  | none => .ok tree.directory

end LexicalTree

end LineShell

------------------------------------------------------------
-- The Machine
------------------------------------------------------------

namespace LineShell

namespace LexicalTree

/- The tree as a file system. -/
def fileSystem : FileSystem LexicalTree where
  mode := lookup
  workingDirectory := workingDirectory
  enter := enter

/-
  A machine over a tree.  Its device says how every child
  ends; no child changes the tree.
-/
def machine : Machine LexicalTree (Except Fault Int) where
  files := fileSystem
  launch := fun _ tree ending _ => ⟨ending, tree, ending, []⟩

end LexicalTree

end LineShell
