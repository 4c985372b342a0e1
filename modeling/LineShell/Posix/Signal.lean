import LineShell.Text.Decimal

/-
  Signals, by number and by name.

  Main declarations:
    * `Posix.Signal.name`
    * `Posix.Signal.describe`
    * `Posix.Signal.isFatal`
    * `Posix.Signal.ofDigits?`
-/

------------------------------------------------------------
-- Names
------------------------------------------------------------

namespace LineShell

namespace Posix

namespace Signal

/- The names of the signals from 1 to 31; one has none. -/
def ordinaryNames :
    List String :=
  ["HUP", "INT", "QUIT", "ILL", "TRAP", "ABRT", "BUS", "FPE",
    "KILL", "USR1", "SEGV", "USR2", "PIPE", "ALRM", "TERM",
    "16", "CHLD", "CONT", "STOP", "TSTP", "TTIN", "TTOU",
    "URG", "XCPU", "XFSZ", "VTALRM", "PROF", "WINCH", "IO ",
    "PWR", "SYS"]

/- The number of the first signal for free use. -/
def firstFree : Nat :=
  34

/- The largest number of a signal. -/
def last : Nat :=
  64

/-
  The name of a signal.  Those for free use are named by their
  distance from the nearer end of their range.
-/
def name
    (signal : Nat) : Text :=
  match ("0" :: ordinaryNames)[signal]? with
  | some name => name.toList.filter (· != ' ')
  | none =>
      if signal < firstFree then
        Text.ofNat signal
      else if signal = firstFree then
        "RTMIN"
      else if signal = last then
        "RTMAX"
      else if signal < 50 then
        "RTMIN+" ++ Text.ofNat (signal - firstFree)
      else
        "RTMAX-" ++ Text.ofNat (last - signal)

/-
  The signal of a row of digits, of which only the last 32
  bits of a number up to 2 ^ 63 count.
-/
def ofDigits?
    (digits : Text) : Option Nat :=
  let largest := Nat.pow 2 63 - 1
  let signal :=
    min (Text.numeralValue digits) largest % Nat.pow 2 32
  if signal ≤ last then some signal else none

end Signal

end Posix

end LineShell

------------------------------------------------------------
-- Effects
------------------------------------------------------------

namespace LineShell

namespace Posix

namespace Signal

/- What is said of a process that a signal ended. -/
def descriptions :
    List String :=
  ["Hangup", "Interrupt", "Quit", "Illegal instruction",
    "Trace/breakpoint trap", "Aborted", "Bus error",
    "Floating point exception", "Killed",
    "User defined signal 1", "Segmentation fault",
    "User defined signal 2", "Broken pipe", "Alarm clock",
    "Terminated", "Stack fault", "Child exited", "Continued",
    "Stopped (signal)", "Stopped", "Stopped (tty input)",
    "Stopped (tty output)", "Urgent I/O condition",
    "CPU time limit exceeded", "File size limit exceeded",
    "Virtual timer expired", "Profiling timer expired",
    "Window changed", "I/O possible", "Power failure",
    "Bad system call"]

/- What is said of a process that the signal ended. -/
def describe
    (signal : Nat) : Text :=
  match descriptions[signal - 1]? with
  | some text => text.toList
  | none =>
      if signal < firstFree then
        "Unknown signal " ++ Text.ofNat signal
      else
        "Real-time signal " ++
          Text.ofNat (signal - firstFree)

/-
  Whether a signal ends a process that does not ignore it.
  Signal 0 is none, four signals have no effect by default,
  and four more only stop a process.
-/
def isFatal
    (signal : Nat) : Bool :=
  signal != 0 &&
    !([17, 18, 23, 28] ++ [19, 20, 21, 22]).contains signal

/- Whether no process can ignore or catch the signal. -/
def isUnstoppable
    (signal : Nat) : Bool :=
  signal == 9 || signal == 19

/-
  The signals that the interpreter itself ignores: writing to
  a closed pipe, and outgrowing a limit on files.
-/
def ignoredByInterpreter :
    List Nat :=
  [13, 25]

end Signal

end Posix

end LineShell
