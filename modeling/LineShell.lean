import LineShell.Action
import LineShell.Builtin
import LineShell.Builtin.Report
import LineShell.Builtin.Run
import LineShell.CommandLine
import LineShell.Config
import LineShell.Environment
import LineShell.Errno
import LineShell.ExitStatus
import LineShell.Fault
import LineShell.Invocation
import LineShell.LexicalTree
import LineShell.Machine
import LineShell.Main
import LineShell.Options.Basic
import LineShell.Options.Reading
import LineShell.Options.Usage
import LineShell.Path
import LineShell.Posix.Cat
import LineShell.Posix.Edit
import LineShell.Posix.Exec
import LineShell.Posix.FileSystem
import LineShell.Posix.Host
import LineShell.Posix.Interpreter
import LineShell.Posix.Process
import LineShell.Posix.Sh.Arguments
import LineShell.Posix.Sh.Arithmetic
import LineShell.Posix.Sh.Builtin
import LineShell.Posix.Sh.Call
import LineShell.Posix.Sh.Condition
import LineShell.Posix.Sh.Control
import LineShell.Posix.Sh.Directory
import LineShell.Posix.Sh.Expansion
import LineShell.Posix.Sh.Fields
import LineShell.Posix.Sh.Format
import LineShell.Posix.Sh.Grammar
import LineShell.Posix.Sh.Invoke
import LineShell.Posix.Sh.Jobs
import LineShell.Posix.Sh.Lexing
import LineShell.Posix.Sh.Lookup
import LineShell.Posix.Sh.Pattern
import LineShell.Posix.Sh.Reader
import LineShell.Posix.Sh.Reading
import LineShell.Posix.Sh.Redirection
import LineShell.Posix.Sh.Run
import LineShell.Posix.Sh.Script
import LineShell.Posix.Sh.Settings
import LineShell.Posix.Sh.Startup
import LineShell.Posix.Sh.State
import LineShell.Posix.Sh.Syntax
import LineShell.Posix.Sh.Traps
import LineShell.Posix.Signal
import LineShell.Posix.System
import LineShell.Posix.Tree
import LineShell.Program
import LineShell.Proofs.Action
import LineShell.Proofs.BelowHome
import LineShell.Proofs.Buffering
import LineShell.Proofs.Builtin
import LineShell.Proofs.ChangingDirectory
import LineShell.Proofs.ChildStatuses
import LineShell.Proofs.CommandLine
import LineShell.Proofs.Concluding
import LineShell.Proofs.Config
import LineShell.Proofs.Confinement
import LineShell.Proofs.Echo
import LineShell.Proofs.Endings
import LineShell.Proofs.Execution
import LineShell.Proofs.ExitArguments
import LineShell.Proofs.ExtraArguments
import LineShell.Proofs.FailingOutput
import LineShell.Proofs.Footprint
import LineShell.Proofs.HomeExpansion
import LineShell.Proofs.JoinedSearch
import LineShell.Proofs.LastStatus
import LineShell.Proofs.Leaving
import LineShell.Proofs.Options
import LineShell.Proofs.Overrides
import LineShell.Proofs.Persistence
import LineShell.Proofs.Precedence
import LineShell.Proofs.ProbedFiles
import LineShell.Proofs.Resolution
import LineShell.Proofs.Search
import LineShell.Proofs.SearchPath
import LineShell.Proofs.SearchRecords
import LineShell.Proofs.Session
import LineShell.Proofs.SpawnMethods
import LineShell.Proofs.Streams
import LineShell.Proofs.Text
import LineShell.Proofs.Trace
import LineShell.Proofs.TwinSessions
import LineShell.Proofs.Twins
import LineShell.Proofs.World
import LineShell.Search
import LineShell.Shell
import LineShell.Spawning
import LineShell.Streams
import LineShell.Table
import LineShell.Text.Basic
import LineShell.Text.Binary
import LineShell.Text.Decimal
import LineShell.Text.Octets
import LineShell.Text.Printable
import LineShell.Text.Quoted
import LineShell.Text.Upper
import LineShell.Text.Wrapped
import LineShell.Trace
import LineShell.World
