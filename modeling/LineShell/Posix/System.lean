import LineShell.Posix.Edit
import LineShell.Text.Octets

/-
  What all processes share: the files, and what is open.

  An open file can be shared by several descriptors and
  several processes; what one of them reads, the others do
  not read again.  Paths and texts are octets here.

  Main declarations:
    * `Posix.Target`
    * `Posix.OpenFile`
    * `Posix.System`
    * `Posix.System.take`
    * `Posix.System.put`
    * `Posix.System.openPath`
-/

------------------------------------------------------------
-- Open Files
------------------------------------------------------------

namespace LineShell

namespace Posix

/-
  What an open file leads to: octets that are waiting to be
  read, a place in a file of the tree, nothing, or a device on
  which there is no room.
-/
inductive Target where
  | waiting (octets : Text)
  | file (node : Nat) (offset : Nat)
  | nothing
  | full
  deriving DecidableEq, Repr

/- An open file and what it may be used for. -/
structure OpenFile where
  target : Target
  reads : Bool
  writes : Bool
  appends : Bool := false
  deriving DecidableEq, Repr

/-
  The tree, the open files by number, the number of the last
  process, and the signals that were sent to processes.
-/
structure System where
  tree : Tree
  opened : List OpenFile
  lastProcess : Nat := 2
  signals : List (Nat × Nat) := []

end Posix

end LineShell

------------------------------------------------------------
-- Reading and Writing
------------------------------------------------------------

namespace LineShell

namespace Posix

namespace System

/- Replace an open file. -/
def setOpened
    (s : System)
    (id : Nat)
    (file : OpenFile) : System :=
  { s with opened := s.opened.set id file }

/- Open one more file; the answer is its number. -/
def adopt
    (s : System)
    (file : OpenFile) : Nat × System :=
  (s.opened.length,
    { s with opened := s.opened ++ [file] })

/- What a node holds for reading. -/
def stored
    (s : System)
    (node : Nat) : Except Errno Text :=
  match s.tree.content node with
  | .directory .. => .error .isDirectory
  | .file octets => .ok octets
  | _ => .ok []

/- Take octets from an open file, at most so many. -/
def take
    (s : System)
    (id : Nat)
    (most : Option Nat := none) :
    Except Errno (Text × System) :=
  match s.opened[id]? with
  | none => .error .badDescriptor
  | some file =>
      let cut (octets : Text) :=
        match most with
        | none => octets
        | some n => octets.take n
      if !file.reads then
        .error .badDescriptor
      else
        match file.target with
        | .waiting octets =>
            let taken := cut octets
            let left := octets.drop taken.length
            .ok (taken,
              s.setOpened id
                { file with target := .waiting left })
        | .file node offset => do
            let octets ← s.stored node
            let taken := cut (octets.drop offset)
            let place := offset + taken.length
            return (taken,
              s.setOpened id
                { file with target := .file node place })
        | _ => .ok ([], s)

/- Octets with others at an offset; a gap is filled up. -/
def overwritten
    (octets : Text)
    (offset : Nat)
    (given : Text) : Text :=
  let gap := offset - octets.length
  octets.take offset ++ List.replicate gap nul ++ given ++
    octets.drop (offset + given.length)

/- Put octets into an open file. -/
def put
    (s : System)
    (id : Nat)
    (given : Text) : Except Errno System :=
  match s.opened[id]? with
  | none => .error .badDescriptor
  | some file =>
      if !file.writes then
        .error .badDescriptor
      else
        match file.target with
        | .waiting octets =>
            .ok <| s.setOpened id
              { file with target := .waiting (octets ++ given) }
        | .nothing => .ok s
        | .full => .error .noSpace
        | .file node offset => do
            let octets ← s.stored node
            let start :=
              if file.appends then octets.length else offset
            let content :=
              Content.file (overwritten octets start given)
            let moved :=
              s.setOpened id
                { file with
                  target := .file node (start + given.length) }
            return { moved with
              tree := moved.tree.setContent node content }

end System

end Posix

end LineShell

------------------------------------------------------------
-- Opening
------------------------------------------------------------

namespace LineShell

namespace Posix

/-
  What a path is opened for.  To write empties the file first;
  `create` does so too, but wants a file that is new, unless
  it is not a regular one.
-/
inductive Access where
  | read
  | write
  | create
  | append
  | update
  deriving DecidableEq, Repr

namespace Access

/- An open file for an access. -/
def file
    (access : Access)
    (target : Target) : OpenFile :=
  { target
    reads := access = .read || access = .update
    writes := access ≠ .read
    appends := access = .append }

end Access

namespace System

/- The permissions of a new file. -/
def newFileMode
    (mask : Nat) : FileMode :=
  0o666 - (0o666 &&& mask)

/- Make the file that is missing at a path, and open it. -/
def openNew
    (s : System)
    (mask : Nat)
    (path : Path)
    (access : Access) : Except Errno (OpenFile × System) := do
  if Text.endsWith '/' path then
    throw .isDirectory
  let tree ← s.tree.makeText path [] (newFileMode mask)
  let node := s.tree.nodes.length
  return (access.file (.file node 0), { s with tree := tree })

/- Open a node of the tree for a process with arguments. -/
def openNode
    (s : System)
    (argv : List Text)
    (node : Nat)
    (access : Access) : Except Errno (OpenFile × System) :=
  match s.tree.content node with
  | .directory .. =>
      if access = .read then
        .ok (access.file (.file node 0), s)
      else
        .error .isDirectory
  | .arguments =>
      let octets := argv.flatMap (· ++ [nul])
      .ok (access.file (.waiting octets), s)
  | .sink => .ok (access.file .nothing, s)
  | .full => .ok (access.file .full, s)
  | .absent => .error .noDevice
  | .descriptor _ => .error .noEntry
  | .file _ =>
      let target := Target.file node 0
      if access = .create then
        .error .alreadyExists
      else if access = .write then
        .ok (access.file target,
          { s with
            tree := s.tree.setContent node (.file []) })
      else
        .ok (access.file target, s)
  | .program _ =>
      if access = .read then
        .ok (access.file (.file node 0), s)
      else if access = .create then
        .error .alreadyExists
      else
        .error .textBusy
  | .link _ => .error .tooManyLinks

/-
  Open what a process has open as a descriptor.  A file is
  opened once more, from its beginning; anything else is
  shared.
-/
def openAgain
    (s : System)
    (argv : List Text)
    (id : Nat)
    (access : Access) : Except Errno (Nat × System) :=
  match s.opened[id]? with
  | some ⟨.file node _, _, _, _⟩ => do
      let (file, s) ← s.openNode argv node access
      return s.adopt file
  | some _ => .ok (id, s)
  | none => .error .noEntry

/-
  Open a path for a process with these arguments and
  descriptors, whose new files lack the permissions of a mask.
-/
def openPath
    (s : System)
    (argv : List Text)
    (descriptors : List (Nat × Nat))
    (mask : Nat)
    (path : Text)
    (access : Access) : Except Errno (Nat × System) := do
  let place := Text.ofOctets path
  match s.tree.resolve true place with
  | .ok node =>
      match s.tree.content node with
      | .descriptor number =>
          match descriptors.lookup number with
          | some id => s.openAgain argv id access
          | none => .error .noEntry
      | _ => do
          let (file, s) ← s.openNode argv node access
          return s.adopt file
  | .error .noEntry =>
      if access = .read || place.isEmpty then
        .error .noEntry
      else do
        let (file, s) ← s.openNew mask place access
        return s.adopt file
  | .error errno => .error errno

end System

end Posix

end LineShell
