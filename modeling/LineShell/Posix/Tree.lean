import LineShell.Machine
import LineShell.Text.Octets

/-
  A file tree with links, in which directories know their
  parents.

  Nodes are numbered, and a removed directory keeps its number
  and its parent, so that a process can still stand in it.

  Main declarations:
    * `Posix.Content`
    * `Posix.Node`
    * `Posix.Tree`
    * `Posix.Tree.walk`
    * `Posix.Tree.resolve`
-/

------------------------------------------------------------
-- Nodes
------------------------------------------------------------

namespace LineShell

namespace Posix

/- The programs that the host brings along. -/
inductive Program where
  | cat
  | sh
  deriving DecidableEq, Repr

/- What a node holds. -/
inductive Content where
  /- Entries by name, and the parent directory. -/
  | directory (parent : Nat) (entries : Table Nat)
  /- What is stored, octet by octet. -/
  | file (octets : Text)
  | link (target : Path)
  | program (program : Program)
  /- A file that shows a reading process its arguments. -/
  | arguments
  /- A file that is what a process has open under a number. -/
  | descriptor (number : Nat)
  /- A device that takes all and gives nothing. -/
  | sink
  /- A device on which there is no room. -/
  | full
  /- A device that is not there. -/
  | absent
  deriving DecidableEq, Repr

/- A node with its type and permission bits. -/
structure Node where
  mode : FileMode
  content : Content
  deriving DecidableEq, Repr

/-
  Numbered nodes, and where the process is.  The first node is
  the root directory; after it come the files that the standard
  streams of children lead to, which have no paths.
-/
structure Tree where
  nodes : List Node
  here : Nat := 0
  deriving DecidableEq, Repr

namespace Tree

/- The number of the root directory. -/
def root : Nat :=
  0

/- The number of the file that standard input comes from. -/
def inputFile : Nat :=
  1

/- The number of the file that a stream is collected in. -/
def streamFile :
    Channel → Nat
  | .out => 2
  | .err => 3

/- The node of a number. -/
def node?
    (t : Tree)
    (id : Nat) : Option Node :=
  t.nodes[id]?

/- The content of a node; a number without one holds nothing. -/
def content
    (t : Tree)
    (id : Nat) : Content :=
  match t.node? id with
  | some node => node.content
  | none => .file []

end Tree

end Posix

end LineShell

------------------------------------------------------------
-- Walking
------------------------------------------------------------

namespace LineShell

namespace Posix

/- The length of a text in bytes. -/
def byteLength
    (t : Text) : Nat :=
  t.foldl (fun n c => n + c.utf8Size) 0

/- The longest name of an entry, in bytes. -/
def longestName : Nat :=
  255

/- The longest path, in bytes. -/
def longestPath : Nat :=
  4095

/- How many links a path may lead through. -/
def mostLinks : Nat :=
  40

/-
  The names that a path leads through.  A slash at the end
  stands for one more step to the directory itself.
-/
def steps
    (path : Path) : List Text :=
  let names := (path.splitOn '/').filter (!·.isEmpty)
  if Text.endsWith '/' path then
    names ++ [['.']]
  else
    names

namespace Tree

/- Where the names of a path start. -/
def origin
    (here : Nat)
    (path : Path) : Nat :=
  if Text.beginsWith '/' path then root else here

/-
  Follow names from a directory.  A link in the way is
  replaced by the names of its target; a link at the end is
  followed only if asked for.
-/
def walk
    (t : Tree)
    (followLast : Bool)
    (links : Nat)
    (here : Nat) : List Text → Except Errno Nat
  | [] => .ok here
  | name :: rest =>
      match t.content here with
      | .directory parent entries =>
          if name = ['.'] then
            walk t followLast links here rest
          else if name = ['.', '.'] then
            walk t followLast links parent rest
          else if longestName < byteLength name then
            .error .nameTooLong
          else
            match entries.find? name with
            | none => .error .noEntry
            | some id =>
                match t.content id with
                | .link target =>
                    if rest.isEmpty && !followLast then
                      .ok id
                    else
                      match links with
                      | 0 => .error .tooManyLinks
                      | links + 1 =>
                          walk t followLast links
                            (origin here target)
                            (steps target ++ rest)
                | _ => walk t followLast links id rest
      | _ => .error .notDirectory
termination_by names => (links, names.length)

/- The node that a path leads to. -/
def resolve
    (t : Tree)
    (followLast : Bool)
    (path : Path) : Except Errno Nat :=
  if path.isEmpty then
    .error .noEntry
  else if longestPath < byteLength path then
    .error .nameTooLong
  else
    t.walk followLast mostLinks (origin t.here path)
      (steps path)

end Tree

end Posix

end LineShell
