import LineShell.Fault

/-
  Traces: what a run does, event by event, and what can be
  read off a trace about its output streams.

  A stream holds text that was written and not yet flushed.
  `Buffers` follows both streams along a trace.

  Main declarations:
    * `Channel`
    * `Record`
    * `Request`
    * `Event`
    * `Trace.written`
    * `Trace.probes`
    * `Trace.requests`
    * `Trace.records`
    * `Buffers`
    * `Buffers.after`
    * `Trace.snapshots`
-/

------------------------------------------------------------
-- Events
------------------------------------------------------------

namespace LineShell

/- The two output streams. -/
inductive Channel where
  | out
  | err
  deriving DecidableEq, Repr

/- The weight of a log record. -/
inductive Level where
  | debug
  | info
  | warning
  | error
  | critical
  deriving DecidableEq, Repr

namespace Level

/- The five levels, in ascending order. -/
def all :
    List Level :=
  [debug, info, warning, error, critical]

/- The name of a level. -/
def name :
    Level → Text
  | debug => "DEBUG"
  | info => "INFO"
  | warning => "WARNING"
  | error => "ERROR"
  | critical => "CRITICAL"

/- The number that levels are compared by. -/
def value :
    Level → Nat
  | debug => 10
  | info => 20
  | warning => 30
  | error => 40
  | critical => 50

end Level

/- The part of the interpreter that a log record is from. -/
inductive Source where
  | shell
  | search
  | process
  | directory
  | program
  deriving DecidableEq, Repr

namespace Source

/- The name that a source signs its records with. -/
def name :
    Source → Text
  | shell => "tinysh.shell"
  | search => "tinysh.path_manager"
  | process => "tinysh.process"
  | directory => "tinysh.commands.cd"
  | program => "tinysh.cli"

end Source

/- One log record. -/
structure Record where
  level : Level
  source : Source
  message : Text
  deriving DecidableEq, Repr

/- A request to start a child and wait for it. -/
structure Request where
  path : Path
  argv : List Text
  deriving DecidableEq, Repr

/- One step of a run that can be observed. -/
inductive Event where
  /- Text was written to a stream of the interpreter. -/
  | wrote (channel : Channel) (text : Text)
  /- All that was written to a stream was passed on. -/
  | flushed (channel : Channel)
  /- The mode of a file was asked for. -/
  | probed (path : Path)
  /- A change of the working directory was asked for. -/
  | moved (path : Path)
  /- A child was asked for. -/
  | launched (request : Request)
  /- A child wrote past the interpreter's streams. -/
  | childWrote (channel : Channel) (text : Text)
  /- A line of input was asked for. -/
  | awaited
  /- A log record was made. -/
  | logged (record : Record)
  deriving DecidableEq, Repr

/- The events of a run, in order. -/
abbrev Trace :=
  List Event

end LineShell

------------------------------------------------------------
-- Views
------------------------------------------------------------

namespace LineShell

namespace Event

/- The text that the event writes to a stream. -/
def textOn
    (channel : Channel) : Event → Text
  | wrote ch text => if ch = channel then text else []
  | _ => []

/- The path that the event probes. -/
def probe? :
    Event → Option Path
  | probed path => some path
  | _ => none

/- The child that the event asks for. -/
def request? :
    Event → Option Request
  | launched request => some request
  | _ => none

/- The log record that the event makes. -/
def record? :
    Event → Option Record
  | logged record => some record
  | _ => none

/- Whether the event asks for a line of input. -/
def isAwait :
    Event → Bool
  | awaited => true
  | _ => false

end Event

namespace Trace

/- All text written to a stream. -/
def written
    (channel : Channel)
    (trace : Trace) : Text :=
  trace.flatMap (·.textOn channel)

/- The probed paths, in order. -/
def probes
    (trace : Trace) : List Path :=
  trace.filterMap (·.probe?)

/- The requested children, in order. -/
def requests
    (trace : Trace) : List Request :=
  trace.filterMap (·.request?)

/- The log records, in order. -/
def records
    (trace : Trace) : List Record :=
  trace.filterMap (·.record?)

/- How many lines of input were asked for. -/
def awaits
    (trace : Trace) : Nat :=
  trace.countP (·.isAwait)

end Trace

end LineShell

------------------------------------------------------------
-- Buffers
------------------------------------------------------------

namespace LineShell

/-
  What both streams hold back, and how many characters of
  standard output have been passed on.
-/
structure Buffers where
  flushed : Nat := 0
  pendingOut : Text := []
  pendingErr : Text := []
  deriving DecidableEq, Repr

namespace Buffers

/- What one stream holds back. -/
def pending
    (b : Buffers) : Channel → Text
  | .out => b.pendingOut
  | .err => b.pendingErr

/- The buffers after one more event. -/
def step
    (b : Buffers) : Event → Buffers
  | .wrote .out text =>
      { b with pendingOut := b.pendingOut ++ text }
  | .wrote .err text =>
      { b with pendingErr := b.pendingErr ++ text }
  | .flushed .out =>
      { b with
        flushed := b.flushed + b.pendingOut.length
        pendingOut := [] }
  | .flushed .err =>
      { b with pendingErr := [] }
  | _ => b

/- The buffers after all events of a trace. -/
def after
    (b : Buffers)
    (trace : Trace) : Buffers :=
  trace.foldl step b

/- Neither stream holds anything back. -/
def isClear
    (b : Buffers) : Bool :=
  b.pendingOut.isEmpty && b.pendingErr.isEmpty

end Buffers

namespace Trace

/-
  The events that a test picks, each with the buffers as they
  were when it happened.
-/
def snapshots
    (pick : Event → Option α)
    (b : Buffers) : Trace → List (α × Buffers)
  | [] => []
  | event :: rest =>
      let later := snapshots pick (b.step event) rest
      match pick event with
      | some a => (a, b) :: later
      | none => later

end Trace

end LineShell

------------------------------------------------------------
-- Delivered Text
------------------------------------------------------------

namespace LineShell

namespace Record

/- The line that shows a record made at the given time. -/
def line
    (time : Text)
    (record : Record) : Text :=
  "[" ++ time ++ "] " ++ record.level.name ++ " " ++
    record.source.name ++ ": " ++ record.message ++ "\n"

end Record

namespace Trace

/-
  The text that reaches a descriptor: what a flush passes on
  and what children write, in order.  `held` is what the
  stream holds back at the start; what it holds back at the
  end is delivered last.
-/
def delivered
    (channel : Channel)
    (held : Text) : Trace → Text
  | [] => held
  | .wrote ch text :: rest =>
      if ch = channel then
        delivered channel (held ++ text) rest
      else
        delivered channel held rest
  | .flushed ch :: rest =>
      if ch = channel then
        held ++ delivered channel [] rest
      else
        delivered channel held rest
  | .childWrote ch text :: rest =>
      if ch = channel then
        text ++ delivered channel held rest
      else
        delivered channel held rest
  | _ :: rest => delivered channel held rest

/-
  The trace with every record from the threshold up also
  shown as a line on standard error, passed on at once.
-/
def showingRecords
    (time : Text)
    (threshold : Level)
    (trace : Trace) : Trace :=
  trace.flatMap fun event =>
    match event with
    | .logged record =>
        if threshold.value ≤ record.level.value then
          [event, .wrote .err (record.line time),
            .flushed .err]
        else
          [event]
    | _ => [event]

end Trace

end LineShell
