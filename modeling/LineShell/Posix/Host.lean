import LineShell.Posix.Edit
import LineShell.Posix.Exec
import LineShell.Program

/-
  A host with a tree of its own, in which there are a shell
  and a program that copies files.

  Main declarations:
    * `Posix.Tree.bare`
    * `Posix.Tree.standard`
    * `Posix.setVariable`
    * `Posix.host`
-/

------------------------------------------------------------
-- The Standard Tree
------------------------------------------------------------

namespace LineShell

namespace Posix

namespace Tree

/- An empty file without a path. -/
def loneFile : Node :=
  ⟨0o100600, .file []⟩

/- A tree of its root directory and the streams of children. -/
def bare : Tree :=
  { nodes := [
      ⟨FileMode.ordinaryDirectory, .directory root []⟩,
      loneFile, loneFile, loneFile] }

/- The ordinary directories of the standard tree. -/
def standardDirectories :
    List Path :=
  ["/boot", "/dev", "/etc", "/home", "/media", "/mnt",
    "/opt", "/run", "/srv", "/usr", "/usr/bin", "/usr/lib",
    "/usr/local", "/usr/sbin", "/usr/share", "/var"]

/- The other directories, with their modes. -/
def specialDirectories :
    List (Path × FileMode) :=
  [
    ("/proc", 0o040555), ("/proc/self", 0o040555),
    ("/proc/self/fd", 0o040500),
    ("/sys", 0o040555), ("/root", 0o040700),
    ("/tmp", 0o041777), ("/var/tmp", 0o041777)
  ]

/- The links of the standard tree, with their targets. -/
def standardLinks :
    List (Path × Path) :=
  [("/bin", "usr/bin"), ("/lib", "usr/lib"),
    ("/sbin", "usr/sbin"), ("/dev/fd", "/proc/self/fd"),
    ("/dev/stdin", "/proc/self/fd/0"),
    ("/dev/stdout", "/proc/self/fd/1"),
    ("/dev/stderr", "/proc/self/fd/2")]

/- The files of the standard tree. -/
def standardFiles :
    List (Path × Node) :=
  [
    ("/usr/bin/cat", ⟨0o100755, .program .cat⟩),
    ("/usr/bin/sh", ⟨0o100755, .program .sh⟩),
    ("/dev/null", ⟨0o020666, .sink⟩),
    ("/dev/full", ⟨0o020666, .full⟩),
    ("/dev/tty", ⟨0o020666, .absent⟩),
    ("/proc/self/cmdline", ⟨0o100444, .arguments⟩)
  ]

/- The files that are what a process has open. -/
def descriptorFiles :
    List (Path × Node) :=
  (List.range 10).map fun number =>
    ("/proc/self/fd/".toList ++ Text.ofNat number,
      ⟨0o100600, .descriptor number⟩)

/- Change a tree; a change that fails changes nothing. -/
def changed
    (t : Tree)
    (change : Tree → Except Errno Tree) : Tree :=
  (change t).toOption.getD t

/- The tree of the host at first. -/
def standard : Tree :=
  let ordinary :=
    standardDirectories.foldl
      (fun t path => t.changed (·.makeDirectory path)) bare
  let special :=
    specialDirectories.foldl
      (fun t (path, mode) =>
        t.changed (·.makeDirectory path mode)) ordinary
  let linked :=
    standardLinks.foldl
      (fun t (path, target) =>
        t.changed (·.makeLink path target)) special
  (standardFiles ++ descriptorFiles).foldl
    (fun t (path, node) => t.changed (·.makeFile path node))
    linked

end Tree

end Posix

end LineShell

------------------------------------------------------------
-- The Environment
------------------------------------------------------------

namespace LineShell

namespace Posix

/-
  Set or unset a variable of the process.  Neither a name nor a
  value may hold a NUL, and a name has no equals sign in it and
  is not empty.
-/
def setVariable
    (environment : Environment)
    (name : Text)
    (value : Option Text) : Except Fault Environment :=
  if value.isNone then
    .ok (environment.assign name none)
  else if (name :: value.toList).any (·.contains nul) then
    .error embeddedNul
  else if name.contains '=' then
    .error (.value "illegal environment variable name")
  else if name.isEmpty then
    .error Errno.badArgument.fault
  else
    .ok (environment.assign name value)

end Posix

end LineShell

------------------------------------------------------------
-- The Host
------------------------------------------------------------

namespace LineShell

namespace Posix

/- The host. -/
def host : Host Tree Devices where
  machine := machine
  standardInput := fun input isRead =>
    let octets := Text.octets input
    ⟨octets, if isRead then octets.length else 0⟩

end Posix

end LineShell
