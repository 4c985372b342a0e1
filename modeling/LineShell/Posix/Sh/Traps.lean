import LineShell.Posix.Sh.Script
import LineShell.Posix.Sh.Settings

/-
  The actions that a script has on signals and on its end.

  Main declarations:
    * `Posix.Sh.signal?`
    * `Posix.Sh.setTraps`
-/

------------------------------------------------------------
-- Actions on Signals
------------------------------------------------------------

namespace LineShell

namespace Posix

namespace Sh

/- The name of a signal; the end of the script is number 0. -/
def signalName
    (signal : Nat) : Text :=
  if signal = 0 then "EXIT" else Signal.name signal

/- The signal of a number. -/
def numberedSignal?
    (t : Text) : Option Nat :=
  if Text.isNumeral t then Signal.ofDigits? t else none

/- The signal of a number or a name, from a least one on. -/
def signal?
    (least : Nat)
    (t : Text) : Option Nat :=
  let capitals := t.map Char.toUpper
  (numberedSignal? t) <|>
    (List.range (Signal.last + 1)).find? fun signal =>
      least ≤ signal && signalName signal == capitals

/- Write the actions on signals. -/
def putTraps : Act Unit := do
  let s ← get
  for signal in List.range (Signal.last + 1) do
    match s.traps.lookup signal with
    | some action =>
        put ("trap -- ".toList ++ quotedSetting action ++
          ' ' :: signalName signal ++ ['\n'])
    | none => pure ()

/- Set the action on a signal, or have none. -/
def setTrap
    (action : Option Text)
    (signal : Nat) : Act Unit :=
  modify fun s =>
    let others := s.traps.filter (·.1 != signal)
    { s with
      traps :=
        match action with
        | some action => (signal, action) :: others
        | none => others }

/- Set the action on each signal; a wrong one ends it. -/
def setTrapOnAll
    (action : Option Text) : List Text → Act Nat
  | [] => return 0
  | t :: rest => do
      match signal? 0 t with
      | none =>
          tell ("trap: ".toList ++ t ++ ": bad trap\n")
          return 1
      | some signal =>
          setTrap action signal
          setTrapOnAll action rest

/- Write or set the actions on signals. -/
def setTraps
    (args : List Text) : Act Nat := do
  let (_, operands) ← readOptions [] args
  match operands with
  | [] =>
      putTraps
      return 0
  | [_] => setTrapOnAll none operands
  | action :: signals =>
      if (numberedSignal? action).isSome then
        setTrapOnAll none operands
      else
        setTrapOnAll
          (if action = ['-'] then none else some action) signals

end Sh

end Posix

end LineShell

