import LineShell.Fault

/-
  The errors of system calls that the host can answer with.

  Main declarations:
    * `Errno`
    * `Errno.number`
    * `Errno.text`
    * `Errno.fault`
    * `embeddedNul`
-/

------------------------------------------------------------
-- Error Numbers
------------------------------------------------------------

namespace LineShell

/- Why a system call failed. -/
inductive Errno where
  | noEntry
  | noProcess
  | noDevice
  | argumentsTooLong
  | execFormat
  | badDescriptor
  | permissionDenied
  | alreadyExists
  | notDirectory
  | isDirectory
  | badArgument
  | textBusy
  | noSpace
  | nameTooLong
  | notEmpty
  | tooManyLinks
  deriving DecidableEq, Repr

namespace Errno

/- The number of an error. -/
def number :
    Errno → Nat
  | noEntry => 2
  | noProcess => 3
  | noDevice => 6
  | argumentsTooLong => 7
  | execFormat => 8
  | badDescriptor => 9
  | permissionDenied => 13
  | alreadyExists => 17
  | notDirectory => 20
  | isDirectory => 21
  | badArgument => 22
  | textBusy => 26
  | noSpace => 28
  | nameTooLong => 36
  | notEmpty => 39
  | tooManyLinks => 40

/- The description of an error. -/
def text :
    Errno → Text
  | noEntry => "No such file or directory"
  | noProcess => "No such process"
  | noDevice => "No such device or address"
  | argumentsTooLong => "Argument list too long"
  | execFormat => "Exec format error"
  | badDescriptor => "Bad file descriptor"
  | permissionDenied => "Permission denied"
  | alreadyExists => "File exists"
  | notDirectory => "Not a directory"
  | isDirectory => "Is a directory"
  | badArgument => "Invalid argument"
  | textBusy => "Text file busy"
  | noSpace => "No space left on device"
  | nameTooLong => "File name too long"
  | notEmpty => "Directory not empty"
  | tooManyLinks => "Too many levels of symbolic links"

/- The fault that names no path. -/
def fault
    (errno : Errno) : Fault :=
  .os errno.number errno.text none

/- The fault of a call on a path. -/
def faultAt
    (errno : Errno)
    (path : Path) : Fault :=
  .os errno.number errno.text (some path)

end Errno

/- No path or argument of a system call may hold a NUL. -/
def embeddedNul : Fault :=
  .value "embedded null byte"

end LineShell
