import LineShell.Posix.Sh.Expansion

/-
  Redirecting the descriptors of a command.

  All paths in redirections are expanded first, and then the
  redirections take place one after the other.

  Main declarations:
    * `Posix.Sh.Ready`
    * `Posix.Sh.redirectAll`
    * `Posix.Sh.ensuring`
    * `Posix.Sh.redirected`
-/

------------------------------------------------------------
-- Expanding
------------------------------------------------------------

namespace LineShell

namespace Posix

namespace Sh

/-
  A redirection whose words are expanded.  A document is only
  expanded when it is read from.
-/
inductive Ready where
  | file (descriptor : Nat) (opening : Opening) (path : Text)
  | copy (descriptor source : Nat)
  | close (descriptor : Nat)
  | document (descriptor : Nat) (body : Word)

/- Complain about what should be the number of a descriptor. -/
def failDescriptor : Act α := do
  failOnLine (← get).readLine "Bad fd number"

/- Expand the words of a redirection. -/
def readied
    (calls : Calls) : Redirect → Act Ready
  | .file descriptor opening path => do
      return .file descriptor opening
        (← expandToText calls path)
  | .duplicate descriptor source => do
      let text ← expandToText calls source
      match text with
      | ['-'] => return .close descriptor
      | [c] =>
          if c.isDigit then
            return .copy descriptor (Text.digitValue c)
          else
            failDescriptor
      | _ => failDescriptor
  | .document descriptor number => do
      let body := ((← get).documents[number]?).getD []
      return .document descriptor body

end Sh

end Posix

end LineShell

------------------------------------------------------------
-- Redirecting
------------------------------------------------------------

namespace LineShell

namespace Posix

namespace Sh

/- Let a descriptor be an open file, or close it. -/
def setDescriptor
    (descriptor : Nat)
    (opened : Option Nat) : Act Unit :=
  modify fun s =>
    { s with
      process := s.process.setDescriptor descriptor opened }

/- What is said of a path that cannot be opened. -/
def reasonFor
    (isMade : Bool) : Errno → Text
  | .noEntry =>
      if isMade then "Directory nonexistent" else "No such file"
  | .notDirectory =>
      if isMade then "Directory nonexistent" else "No such file"
  | errno => errno.text

/- Open a file for a redirection. -/
def openFor
    (opening : Opening)
    (path : Text) : Act Nat := do
  let s ← get
  let access : Access :=
    match opening with
    | .read => .read
    | .write => if s.options.contains 'C' then .create else .write
    | .overwrite => .write
    | .append => .append
    | .update => .update
  match s.process.openPath path access s.system with
  | .ok (id, system) =>
      set { s with system := system }
      return id
  | .error errno =>
      let isMade := opening != .read
      let verb : Text :=
        if isMade then "cannot create " else "cannot open "
      fail (verb ++ path ++ ": " ++ reasonFor isMade errno)

/- Let a redirection take place. -/
def redirectOne
    (calls : Calls) : Ready → Act Unit
  | .file descriptor opening path => do
      setDescriptor descriptor (some (← openFor opening path))
  | .close descriptor => setDescriptor descriptor none
  | .copy descriptor source => do
      match (← get).process.opened? source with
      | some id => setDescriptor descriptor (some id)
      | none =>
          fail (Text.ofNat source ++ ": " ++
            Errno.badDescriptor.text)
  | .document descriptor body => do
      let text ← expandToText calls body
      let s ← get
      let (id, system) := s.system.adopt
        { target := .waiting text, reads := true, writes := false }
      set { s with system := system }
      setDescriptor descriptor (some id)

/- Let redirections take place. -/
def redirectAll
    (calls : Calls)
    (redirects : List Ready) : Act Unit :=
  redirects.forM (redirectOne calls)

end Sh

end Posix

end LineShell

------------------------------------------------------------
-- Restoring
------------------------------------------------------------

namespace LineShell

namespace Posix

namespace Sh

/- Do something, and answer with how it ended. -/
def attempt
    (m : Act α) : Act (Except Stop α) :=
  fun s =>
    let (result, s) := m.run.run s
    (.ok result, s)

/- Do something, and change the state however it ends. -/
def ensuring
    (m : Act α)
    (after : State → State) : Act α :=
  fun s =>
    let (result, s) := m.run.run s
    (result, after s)

/-
  Do something with redirections in place, if they can take
  place.  If not, the failure is reported, and what to do then
  is the last argument.
-/
def redirected
    (calls : Calls)
    (redirects : List Ready)
    (body otherwise : Act α) : Act α := do
  let s ← get
  let back (after : State) : State :=
    { after with
      process :=
        { after.process with
          descriptors := s.process.descriptors } }
  match ← attempt (redirectAll calls redirects) with
  | .ok _ => ensuring body back
  | .error .failed =>
      modify back
      setStatus 2
      otherwise
  | .error stop =>
      modify back
      throw stop

end Sh

end Posix

end LineShell
