import LineShell.Posix.FileSystem

/-
  Changing a tree: making, replacing and removing its files.

  Main declarations:
    * `Posix.Tree.makeDirectory`
    * `Posix.Tree.makeFile`
    * `Posix.Tree.makeLink`
    * `Posix.Tree.changeMode`
    * `Posix.Tree.removeFile`
    * `Posix.Tree.removeDirectory`
-/

------------------------------------------------------------
-- Nodes and Entries
------------------------------------------------------------

namespace LineShell

namespace Posix

namespace Tree

/- The directory and the name of a place in it. -/
structure Place where
  directory : Nat
  name : Text

/-
  The place that a path from a directory names, whether it is
  taken or not.
-/
def placeFrom
    (t : Tree)
    (here : Nat)
    (path : Path) : Except Errno Place := do
  let names := (path.splitOn '/').filter (!·.isEmpty)
  match names.getLast? with
  | none => .error .noEntry
  | some name =>
      let directory ←
        t.walk true mostLinks (origin here path)
          names.dropLast
      match t.content directory with
      | .directory .. => .ok ⟨directory, name⟩
      | _ => .error .notDirectory

/- The place that a path names, whether it is taken or not. -/
def place
    (t : Tree)
    (path : Path) : Except Errno Place :=
  t.placeFrom t.here path

/- The number at a place, if it is taken. -/
def at?
    (t : Tree)
    (place : Place) : Option Nat :=
  match t.content place.directory with
  | .directory _ entries => Table.find? place.name entries
  | _ => none

/- Change what a node holds. -/
def setContent
    (t : Tree)
    (id : Nat)
    (content : Content) : Tree :=
  { t with
    nodes := t.nodes.modify id fun node =>
      { node with content := content } }

/- Change the entries of a directory. -/
def editEntries
    (t : Tree)
    (directory : Nat)
    (edit : Table Nat → Table Nat) : Tree :=
  { t with
    nodes := t.nodes.modify directory fun node =>
      match node.content with
      | .directory parent entries =>
          { node with
            content := .directory parent (edit entries) }
      | _ => node }

/- Put a new node at a place. -/
def add
    (t : Tree)
    (place : Place)
    (node : Node) : Tree :=
  let grown := { t with nodes := t.nodes ++ [node] }
  grown.editEntries place.directory
    (Table.put place.name t.nodes.length)

/- Put a new node at a place that must be free. -/
def addNew
    (t : Tree)
    (path : Path)
    (make : Nat → Node) : Except Errno Tree := do
  let place ← t.place path
  match t.at? place with
  | some _ => .error .alreadyExists
  | none => .ok (t.add place (make place.directory))

end Tree

end Posix

end LineShell

------------------------------------------------------------
-- Making
------------------------------------------------------------

namespace LineShell

namespace Posix

namespace Tree

/- The permission bits of a mode. -/
def permissions
    (mode : FileMode) : FileMode :=
  mode &&& 0o7777

/- The mode of a regular file with these permissions. -/
def regular
    (bits : FileMode) : FileMode :=
  FileMode.regularType ||| permissions bits

/- Make a directory. -/
def makeDirectory
    (t : Tree)
    (path : Path)
    (mode : FileMode := FileMode.ordinaryDirectory) :
    Except Errno Tree :=
  t.addNew path fun parent => ⟨mode, .directory parent []⟩

/- Make a symbolic link. -/
def makeLink
    (t : Tree)
    (path target : Path) : Except Errno Tree :=
  t.addNew path fun _ => ⟨0o120777, .link target⟩

/-
  The place of a new file: where a path leads when links at
  its end are followed, though there is nothing at last.
-/
def endPlace
    (t : Tree) : Nat → Nat → Path → Except Errno Place
  | 0, _, _ => .error .tooManyLinks
  | links + 1, here, path => do
      if Text.endsWith '/' path then
        throw .isDirectory
      let place ← t.placeFrom here path
      match t.at? place with
      | none => .ok place
      | some id =>
          match t.content id with
          | .link target =>
              endPlace t links place.directory target
          | _ => .error .alreadyExists

/- Make a file, or replace the one that a path leads to. -/
def makeFile
    (t : Tree)
    (path : Path)
    (node : Node) : Except Errno Tree :=
  match t.resolve true path with
  | .ok id =>
      match t.content id with
      | .directory .. => .error .isDirectory
      | _ => .ok { t with nodes := t.nodes.set id node }
  | .error .noEntry => do
      if path.isEmpty then
        throw .noEntry
      let place ← t.endPlace (mostLinks + 1) t.here path
      return t.add place node
  | .error errno => .error errno

/- Make a regular file with a text. -/
def makeText
    (t : Tree)
    (path : Path)
    (text : Text)
    (bits : FileMode) : Except Errno Tree :=
  t.makeFile path ⟨regular bits, .file text.octets⟩

/- Give the file that a path leads to other permissions. -/
def changeMode
    (t : Tree)
    (path : Path)
    (bits : FileMode) : Except Errno Tree := do
  let id ← t.resolve true path
  return { t with
    nodes := t.nodes.modify id fun node =>
      { node with
        mode := (node.mode &&& FileMode.typeMask) |||
          permissions bits } }

end Tree

end Posix

end LineShell

------------------------------------------------------------
-- Removing
------------------------------------------------------------

namespace LineShell

namespace Posix

namespace Tree

/- Remove a file or a link. -/
def removeFile
    (t : Tree)
    (path : Path) : Except Errno Tree := do
  let id ← t.resolve false path
  let place ← t.place path
  match t.content id with
  | .directory .. => .error .isDirectory
  | _ =>
      return t.editEntries place.directory
        (Table.erase place.name)

/- Remove an empty directory. -/
def removeDirectory
    (t : Tree)
    (path : Path) : Except Errno Tree := do
  let id ← t.resolve false path
  let place ← t.place path
  match t.content id with
  | .directory _ [] =>
      return t.editEntries place.directory
        (Table.erase place.name)
  | .directory .. => .error .notEmpty
  | _ => .error .notDirectory

end Tree

end Posix

end LineShell
