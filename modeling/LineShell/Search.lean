import LineShell.Action
import LineShell.Machine

/-
  The search for executables.

  The candidates of a name are its places in the directories
  of the search path, in order.  The first that is a regular
  file with an execute permission is the answer.

  Main declarations:
    * `Search.directories`
    * `Search.candidates`
    * `Search.examine`
    * `Search.first`
    * `Search.find`
-/

------------------------------------------------------------
-- Candidates
------------------------------------------------------------

namespace LineShell

namespace Search

/- The directories of a search path; empty entries do not count. -/
def splitPath
    (path : Text) : List Path :=
  (path.splitOn ':').filter (!·.isEmpty)

/- The directories to search; none if no path is set. -/
def directories
    (environment : Environment) : List Path :=
  match environment.searchPath with
  | none => []
  | some path => splitPath path

/-
  The place of a name in a directory.  Leading slashes of the
  name do not count, so that it cannot leave the directory.
-/
def candidate
    (name : Text)
    (dir : Path) : Path :=
  Path.under dir (Text.dropAll '/' name)

/- The places of a name, in search order. -/
def candidates
    (environment : Environment)
    (name : Text) : List Path :=
  (directories environment).map (candidate name)

end Search

end LineShell

------------------------------------------------------------
-- Examining a Candidate
------------------------------------------------------------

namespace LineShell

namespace Search

variable {φ : Type}

/- The record of a search. -/
def record
    (message : Text) : Event :=
  .logged ⟨.debug, .search, message⟩

/- The record that a candidate is rejected. -/
def rejecting
    (path : Path)
    (reason : Text) : Event :=
  record ("rejecting " ++ path ++ ": " ++ reason)

/- The record that a candidate is accepted. -/
def resolved
    (name : Text)
    (path : Path) : Event :=
  record ("resolved " ++ name ++ " -> " ++ path)

/- The record that no candidate is accepted. -/
def missing
    (name : Text) : Event :=
  record (name ++ " not found on PATH")

/-
  Whether a candidate can be run.  A candidate that the host
  refuses cannot; any other fault ends the search.
-/
def examine
    (F : FileSystem φ)
    (files : φ)
    (path : Path) : Inquiry Bool :=
  match F.mode files path with
  | .error fault =>
      if fault.isHost then
        ⟨.ok false, [.probed path, rejecting path fault.message]⟩
      else
        ⟨.error fault, [.probed path]⟩
  | .ok mode =>
      if FileMode.isRegular mode then
        ⟨.ok (FileMode.isExecutable mode), [.probed path]⟩
      else
        ⟨.ok false,
          [.probed path, rejecting path "not a regular file"]⟩

end Search

end LineShell

------------------------------------------------------------
-- Searching
------------------------------------------------------------

namespace LineShell

namespace Search

variable {φ : Type}

/- The first runnable path of a list, examined in order. -/
def first
    (F : FileSystem φ)
    (files : φ)
    (name : Text) : List Path → Inquiry (Option Path)
  | [] => ⟨.ok none, [missing name]⟩
  | path :: rest =>
      let examined := examine F files path
      match examined.result with
      | .error fault => ⟨.error fault, examined.trace⟩
      | .ok true =>
          ⟨.ok (some path),
            examined.trace ++ [resolved name path]⟩
      | .ok false =>
          let later := first F files name rest
          ⟨later.result, examined.trace ++ later.trace⟩

/- Search for the executable of a name. -/
def find
    (F : FileSystem φ)
    (environment : Environment)
    (files : φ)
    (name : Text) : Inquiry (Option Path) :=
  first F files name (candidates environment name)

end Search

end LineShell
