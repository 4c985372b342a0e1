import LineShell.Trace

/-
  The views of a trace, event by event and part by part.

  Main declarations:
    * `Trace.written_append`
    * `Trace.requests_append`
    * `Trace.awaits_append`
    * `Trace.ofChild`
    * `Trace.unlogged`
    * `Trace.own`
-/

------------------------------------------------------------
-- Views of Joined Traces
------------------------------------------------------------

namespace LineShell

namespace Trace

variable {channel : Channel}
variable {event : Event}
variable {first second trace : Trace}

@[simp] theorem written_nil :
    written channel [] = [] :=
  rfl

@[simp] theorem written_cons :
    written channel (event :: trace) =
      event.textOn channel ++ written channel trace :=
  rfl

@[simp] theorem written_append :
    written channel (first ++ second) =
      written channel first ++ written channel second := by
  simp [written]

@[simp] theorem probes_nil :
    probes [] = [] :=
  rfl

@[simp] theorem probes_append :
    probes (first ++ second) = probes first ++ probes second := by
  simp [probes]

@[simp] theorem requests_nil :
    requests [] = [] :=
  rfl

@[simp] theorem requests_append :
    requests (first ++ second) =
      requests first ++ requests second := by
  simp [requests]

@[simp] theorem awaits_nil :
    awaits [] = 0 :=
  rfl

@[simp] theorem awaits_append :
    awaits (first ++ second) = awaits first + awaits second := by
  simp [awaits]

end Trace

end LineShell

------------------------------------------------------------
-- Traces of Children
------------------------------------------------------------

namespace LineShell

namespace Trace

variable {channel : Channel}

/- What a child writes, event by event. -/
def ofChild
    (writes : List (Channel × Text)) : Trace :=
  writes.map fun (channel, text) => .childWrote channel text

theorem written_ofChild
    (writes : List (Channel × Text)) :
    written channel (ofChild writes) = [] := by
  induction writes with
  | nil => rfl
  | cons piece writes ih => exact ih

theorem requests_ofChild
    (writes : List (Channel × Text)) :
    requests (ofChild writes) = [] := by
  induction writes with
  | nil => rfl
  | cons piece writes ih => exact ih

theorem awaits_ofChild
    (writes : List (Channel × Text)) :
    awaits (ofChild writes) = 0 := by
  induction writes with
  | nil => rfl
  | cons piece writes ih => exact ih

end Trace

end LineShell

------------------------------------------------------------
-- Parts of a Trace
------------------------------------------------------------

namespace LineShell

/-
  Whether the interpreter itself does this for others to see:
  it is no log record, and not what a child writes.
-/
def Event.isOwn :
    Event → Bool
  | logged _ => false
  | childWrote .. => false
  | _ => true

namespace Trace

/- What happens apart from log records. -/
def unlogged
    (trace : Trace) : Trace :=
  trace.filter (·.record?.isNone)

theorem unlogged_append
    (first second : Trace) :
    unlogged (first ++ second) =
      unlogged first ++ unlogged second :=
  List.filter_append first second

/- What the interpreter itself does for others to see. -/
def own
    (trace : Trace) : Trace :=
  trace.filter (·.isOwn)

/- A view sees nothing in events that are left out. -/
theorem filterMap_own
    {α : Type}
    {view : Event → Option α}
    (hView : ∀ event, event.isOwn = false → view event = none)
    (trace : Trace) :
    trace.own.filterMap view = trace.filterMap view := by
  induction trace with
  | nil => rfl
  | cons event trace ih =>
      unfold own at ih ⊢
      cases hOwn : event.isOwn with
      | true => simp [hOwn, List.filterMap_cons, ih]
      | false => simp [hOwn, hView event hOwn, ih]

/- All text that the interpreter writes is its own doing. -/
theorem written_own
    (channel : Channel)
    (trace : Trace) :
    trace.own.written channel = trace.written channel := by
  induction trace with
  | nil => rfl
  | cons event trace ih =>
      unfold own at ih ⊢
      cases hOwn : event.isOwn with
      | true => simp [hOwn, ih]
      | false =>
          have hSilent : event.textOn channel = [] := by
            cases event with
            | logged record => rfl
            | childWrote other text => rfl
            | _ => cases hOwn
          simp [hOwn, hSilent, ih]

theorem requests_own
    (trace : Trace) :
    trace.own.requests = trace.requests := by
  apply filterMap_own
  intro event hOwn
  cases event with
  | launched request => cases hOwn
  | _ => rfl

theorem probes_own
    (trace : Trace) :
    trace.own.probes = trace.probes := by
  apply filterMap_own
  intro event hOwn
  cases event with
  | probed path => cases hOwn
  | _ => rfl

end Trace

end LineShell
