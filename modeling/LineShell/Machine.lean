import LineShell.Environment
import LineShell.Errno
import LineShell.Trace

/-
  The host that the interpreter runs on: files with a working
  directory, and the starting of children.

  Main declarations:
    * `FileMode`
    * `FileSystem`
    * `Launch`
    * `Machine`
-/

------------------------------------------------------------
-- File Modes
------------------------------------------------------------

namespace LineShell

/- The type and permission bits of a file. -/
abbrev FileMode :=
  Nat

namespace FileMode

/- The bits that tell the type of a file. -/
def typeMask : Nat :=
  0o170000

/- The type bits of a regular file. -/
def regularType : Nat :=
  0o100000

/- The type bits of a directory. -/
def directoryType : Nat :=
  0o040000

/- The permissions to execute, of owner, group and others. -/
def executeMask : Nat :=
  0o111

/- Whether the mode is that of a regular file. -/
def isRegular
    (mode : FileMode) : Bool :=
  mode &&& typeMask == regularType

/- Whether the mode is that of a directory. -/
def isDirectory
    (mode : FileMode) : Bool :=
  mode &&& typeMask == directoryType

/- Whether somebody may execute the file. -/
def isExecutable
    (mode : FileMode) : Bool :=
  mode &&& executeMask != 0

/- The mode of an ordinary directory. -/
def ordinaryDirectory : FileMode :=
  0o040755

end FileMode

end LineShell

------------------------------------------------------------
-- Hosts
------------------------------------------------------------

namespace LineShell

/-
  Files in some state `φ`.  Only entering a directory changes
  the state, and only if it succeeds.
-/
structure FileSystem (φ : Type) where
  /- The mode of the file at a path. -/
  mode : φ → Path → Except Fault FileMode
  /- The working directory. -/
  workingDirectory : φ → Except Fault Path
  /- Make a directory the working directory. -/
  enter : φ → Path → Except Fault φ

/-
  What came of starting a child and waiting for it: its status
  or a fault, the new states of the files and the devices, and
  the text that it wrote past the interpreter's streams.
-/
structure Launch (φ δ : Type) where
  result : Except Fault Int
  files : φ
  device : δ
  writes : List (Channel × Text)

/-
  A host with files in state `φ` and devices in state `δ`.
  Children see the environment, and can change the files.
-/
structure Machine (φ δ : Type) where
  files : FileSystem φ
  launch : Environment → φ → δ → Request → Launch φ δ

end LineShell
