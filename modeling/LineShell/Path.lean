import LineShell.Text.Basic

/-
  Paths as texts: placing a name under a directory, and
  expanding a leading tilde.

  Main declarations:
    * `Path`
    * `Path.under`
    * `Path.expandHome`
-/

------------------------------------------------------------
-- Joining
------------------------------------------------------------

namespace LineShell

/- A path is the text that names a file. -/
abbrev Path :=
  Text

namespace Path

/-
  A relative name under a directory.  A slash is put between
  them unless the directory ends in one; under the empty
  directory the name stands alone.
-/
def under
    (dir name : Path) : Path :=
  if dir.isEmpty || Text.endsWith '/' dir then
    dir ++ name
  else
    dir ++ '/' :: name

end Path

end LineShell

------------------------------------------------------------
-- Home Directory
------------------------------------------------------------

namespace LineShell

namespace Path

/-
  Expand a leading `~` that is the whole path or is followed
  by a slash.  The slashes after it do not count, so what is
  left always lands under the home directory.  There is no
  result when the home directory is needed and unset.
-/
def expandHome
    (home : Option Path) : Path → Option Path
  | ['~'] => home
  | '~' :: '/' :: rest =>
      home.map fun dir =>
        let name := Text.dropAll '/' rest
        if name.isEmpty then dir else under dir name
  | path => some path

end Path

end LineShell
