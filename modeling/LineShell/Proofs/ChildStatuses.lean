import LineShell.LexicalTree
import LineShell.Proofs.TwinSessions

/-
  What becomes of the statuses of children.

  A child that cannot be started counts as status 1, and no
  command can tell it from one that ends with status 1.  The
  status itself only reaches the last status: on machines
  whose children leave the same files, sessions do the same
  whatever the children answer.

  Main declarations:
    * `Launch.Twin`
    * `Machine.twin_of_launch`
    * `Machine.settled`
    * `Machine.DifferInStatuses`
    * `Shell.run_hides_statuses`
-/

------------------------------------------------------------
-- Children As Commands See Them
------------------------------------------------------------

namespace LineShell

namespace Launch

variable {φ δ : Type}

/- The child ended with a status or could not be started. -/
def Settles
    (launch : Launch φ δ) : Prop :=
  (∃ status, launch.result = .ok status) ∨
    ∃ path details, launch.result = .error (.spawn path details)

/- Such a child counts as some status. -/
theorem Settles.counted
    {launch : Launch φ δ}
    (hSettles : launch.Settles) :
    ∃ status, launch.counted = .ok status := by
  unfold Launch.counted
  rcases hSettles with ⟨status, hOk⟩ | ⟨path, details, hSpawn⟩
  · rw [hOk]
    exact ⟨status, rfl⟩
  · rw [hSpawn]
    exact ⟨1, rfl⟩

end Launch

namespace World

variable {φ δ : Type}

/- The world with another device, of whatever kind. -/
def withDevice
    {ε : Type}
    (w : World φ δ)
    (device : ε) : World φ ε :=
  { environment := w.environment
    files := w.files
    device := device
    builtins := w.builtins
    streams := w.streams
    lastStatus := w.lastStatus }

end World

end LineShell

------------------------------------------------------------
-- Children Side by Side
------------------------------------------------------------

namespace LineShell

/-
  Two children that differ in nothing that is not tolerated:
  they count as related statuses, or have the same fault.
-/
structure Launch.Twin
    {φ δ ε : Type}
    (T : Tolerance δ ε)
    (first : Launch φ δ)
    (second : Launch φ ε) : Prop where
  result : Result.Alike T.answers first.counted second.counted
  files : second.files = first.files
  device : T.devices first.device second.device
  writes :
    (Trace.ofChild second.writes).filter T.shows =
      (Trace.ofChild first.writes).filter T.shows

/- Worlds that are alike stay so when both streams are flushed. -/
theorem World.Alike.passedOn
    {φ δ ε : Type}
    {T : Tolerance δ ε}
    {w : World φ δ}
    {v : World φ ε}
    (hAlike : World.Alike T w v) :
    World.Alike T w.passedOn v.passedOn :=
  { hAlike with
    streams :=
      congrArg
        (fun streams : Streams =>
          (streams.after .out .flush).after .err .flush)
        hAlike.streams }

namespace Invocation

variable {φ δ ε : Type}
variable {T : Tolerance δ ε}
variable {M : Machine φ δ}
variable {N : Machine φ ε}
variable {w : World φ δ}
variable {v : World φ ε}
variable {path : Path}
variable {argv : List Text}

/- Log records that an observer is not shown do not count. -/
theorem records_unshown
    (hLogged : ∀ record, T.shows (.logged record) = false)
    (records : List Record) :
    (records.map Event.logged).filter T.shows = [] := by
  induction records with
  | nil => rfl
  | cons record records ih =>
      rw [List.map_cons, List.filter_cons_of_neg, ih]
      rw [hLogged record]
      exact Bool.false_ne_true

/-
  Where both streams can be passed on, external commands whose
  children are twins are twins, but for what they log.
-/
theorem external_twin_of_child
    (hLogged : ∀ record, T.shows (.logged record) = false)
    (hAlike : World.Alike T w v)
    (hNext : w.streams.FlushesNext)
    (hChild :
      Launch.Twin T (w.child M ⟨path, argv⟩)
        (v.child N ⟨path, argv⟩)) :
    Outcome.Twin T.worlds T.answers
      (external M path argv w) (external N path argv v) := by
  have hNext' : v.streams.FlushesNext :=
    hAlike.streams.symm ▸ hNext
  have hWrites :
      (Trace.ofChild
          (v.passedOn.child N ⟨path, argv⟩).writes).filter
          T.shows =
        (Trace.ofChild
          (w.passedOn.child M ⟨path, argv⟩).writes).filter
          T.shows :=
    hChild.writes
  rcases external_after_launch M path argv hNext with
    ⟨hState, records, hTrace⟩
  rcases external_after_launch N path argv hNext' with
    ⟨hState', records', hTrace'⟩
  rw [World.launch_apply] at hState hState' hTrace hTrace'
  refine ⟨?_, ?_, ?_⟩
  · rw [external_result M path argv hNext,
      external_result N path argv hNext']
    exact hChild.result
  · rw [hState, hState']
    exact { hAlike.passedOn with
      files := hChild.files
      device := hChild.device }
  · change List.filter T.shows _ = List.filter T.shows _
    rw [hTrace, hTrace']
    simp only [List.filter_append, List.filter_cons,
      records_unshown hLogged, hWrites]

/- Where one cannot be, neither command asks for its child. -/
theorem external_twin_of_failed_flush
    (hAlike : World.Alike T w v)
    (hNext : ¬ w.streams.FlushesNext) :
    Outcome.Twin T.worlds T.answers
      (external M path argv w) (external N path argv v) := by
  have hFlushed := flushBoth_twin w v hAlike
  rcases flushBoth_failed hNext with ⟨fault, -, hFlush⟩
  have hFlush' := hFlushed.result_of_error hFlush
  rw [external_of_failed_flush M path argv hFlush,
    external_of_failed_flush N path argv hFlush']
  exact ⟨.error fault, hFlushed.state, hFlushed.trace⟩

end Invocation

/-
  If children are twins, external commands are, because they
  only flush and log besides.  An observer must not be shown
  log records, which tell the statuses.
-/
theorem Machine.twin_of_launch
    {φ δ ε : Type}
    {T : Tolerance δ ε}
    {M : Machine φ δ}
    {N : Machine φ ε}
    (hLogged : ∀ record, T.shows (.logged record) = false)
    (hFiles : N.files = M.files)
    (hLaunch :
      ∀ environment files device device' request,
        T.devices device device' →
        Launch.Twin T
          (M.launch environment files device request)
          (N.launch environment files device' request)) :
    Machine.Twin T M N where
  files := hFiles
  external := by
    intro path argv w v hAlike
    by_cases hNext : w.streams.FlushesNext
    · apply Invocation.external_twin_of_child hLogged hAlike hNext
      unfold World.child
      rw [hAlike.environment, hAlike.files]
      exact hLaunch _ _ _ _ _ hAlike.device
    · exact Invocation.external_twin_of_failed_flush hAlike hNext

end LineShell

------------------------------------------------------------
-- Machines That Differ in Statuses
------------------------------------------------------------

namespace LineShell

variable {φ δ ε : Type}

/-
  Two machines with the same files, whose children each end
  with a status or cannot be started.  What the children of a
  machine answer is up to its devices; what they leave of the
  files is not.
-/
structure Machine.DifferInStatuses
    (D : δ → ε → Prop)
    (M : Machine φ δ)
    (N : Machine φ ε) : Prop where
  files : N.files = M.files
  settles :
    ∀ environment files device device' request,
      D device device' →
      (M.launch environment files device request).Settles ∧
        (N.launch environment files device' request).Settles
  leaves :
    ∀ environment files device device' request,
      D device device' →
      (N.launch environment files device' request).files =
        (M.launch environment files device request).files
  devices :
    ∀ environment files device device' request,
      D device device' →
      D (M.launch environment files device request).device
        (N.launch environment files device' request).device

namespace Tolerance

/- Statuses do not count, nor does what is logged of them. -/
def ofStatuses
    (D : δ → ε → Prop) : Tolerance δ ε where
  shows := Event.isOwn
  answers := fun _ _ => True
  statuses := fun _ _ => True
  devices := D
  answers_refl := fun _ => trivial
  statuses_of_answers := fun _ _ _ => trivial

/- Only what is logged does not count. -/
def ofRecords (δ : Type) : Tolerance δ δ where
  shows := (·.record?.isNone)
  answers := (· = ·)
  statuses := (· = ·)
  devices := (· = ·)
  answers_refl := fun _ => rfl
  statuses_of_answers := fun _ _ hEq => hEq

end Tolerance

/- Machines that differ in statuses are twins but for these. -/
theorem Machine.DifferInStatuses.twin
    {D : δ → ε → Prop}
    {M : Machine φ δ}
    {N : Machine φ ε}
    (hDiffer : DifferInStatuses D M N) :
    Machine.Twin (Tolerance.ofStatuses D) M N := by
  have hChildren (writes : List (Channel × Text)) :
      (Trace.ofChild writes).filter Event.isOwn = [] := by
    induction writes with
    | nil => rfl
    | cons piece writes ih => exact ih
  apply Machine.twin_of_launch (fun _ => rfl) hDiffer.files
  intro environment files device device' request hDevice
  rcases hDiffer.settles environment files device device'
      request hDevice with
    ⟨hFirst, hSecond⟩
  rcases hFirst.counted with ⟨status, hStatus⟩
  rcases hSecond.counted with ⟨status', hStatus'⟩
  refine ⟨?_, ?_, ?_, ?_⟩
  · rw [hStatus, hStatus']
    exact .ok trivial
  · exact hDiffer.leaves _ _ _ _ _ hDevice
  · exact hDiffer.devices _ _ _ _ _ hDevice
  · exact (hChildren _).trans (hChildren _).symm

namespace Machine

/- The machine on which unstarted children answer status 1. -/
def settled
    (M : Machine φ δ) : Machine φ δ where
  files := M.files
  launch := fun environment files device request =>
    let launch := M.launch environment files device request
    { launch with result := launch.counted }

/- On it, all children that cannot be started are settled. -/
theorem settled_settled
    (M : Machine φ δ) :
    M.settled.settled = M.settled := by
  unfold settled
  congr 1
  funext environment files device request
  have hCounted (launch : Launch φ δ) :
      Launch.counted { launch with result := launch.counted } =
        launch.counted := by
    unfold Launch.counted
    rcases launch with ⟨result, files, device, writes⟩
    cases result with
    | ok status => rfl
    | error fault =>
        cases fault with
        | spawn path details => rfl
        | _ => rfl
  simp only [hCounted]

/-
  Machines that only differ in children that cannot be started
  on one and answer status 1 on the other are twins.
-/
theorem twin_of_settled
    {L M : Machine φ δ}
    (hSettled : L.settled = M.settled) :
    Machine.Twin (Tolerance.ofRecords δ) L M := by
  have hFiles : L.settled.files = M.settled.files := by
    rw [hSettled]
  have hFiles : M.files = L.files := hFiles.symm
  apply Machine.twin_of_launch (fun _ => rfl) hFiles
  rintro environment files device _ request rfl
  have hLaunch :
      L.settled.launch environment files device request =
        M.settled.launch environment files device request := by
    rw [hSettled]
  have hCounted := congrArg (·.result) hLaunch
  refine ⟨?_, ?_, ?_, ?_⟩
  · change Launch.counted _ = Launch.counted _ at hCounted
    rw [hCounted]
    cases (M.launch environment files device request).counted with
    | ok status => exact .ok rfl
    | error fault => exact .error fault
  · exact congrArg (·.files) hLaunch.symm
  · exact congrArg (·.device) hLaunch
  · exact congrArg
      (fun launch => (Trace.ofChild launch.writes).filter _)
      hLaunch.symm

end Machine

/- Worlds that are alike have all but two fields in common. -/
theorem World.Alike.eq_withDevice
    {T : Tolerance δ ε}
    {w : World φ δ}
    {v : World φ ε}
    (hAlike : World.Alike T w v) :
    v = { w.withDevice v.device with
      lastStatus := v.lastStatus } := by
  rcases v with ⟨_, _, _, _, _, _⟩
  rcases hAlike with ⟨rfl, rfl, rfl, rfl, -, -⟩
  rfl

/- Where nothing but records may differ, worlds are equal. -/
theorem World.Alike.eq
    {w v : World φ δ}
    (hAlike : World.Alike (Tolerance.ofRecords δ) w v) :
    v = w := by
  have hStatus : w.lastStatus = v.lastStatus :=
    hAlike.lastStatus
  have hDevice : w.device = v.device := hAlike.device
  rw [hAlike.eq_withDevice, ← hStatus, ← hDevice]
  rfl

theorem Console.Alike.eq
    {c d : Console φ δ}
    (hAlike : Console.Alike (Tolerance.ofRecords δ) c d) :
    d = c := by
  rcases d with ⟨world, input⟩
  rcases hAlike with ⟨hWorld, rfl⟩
  exact congrArg (Console.mk · c.input) hWorld.eq

end LineShell

------------------------------------------------------------
-- Sessions
------------------------------------------------------------

namespace LineShell

/- Two outcomes that only log records can tell apart. -/
structure Outcome.SameButRecords
    {σ α : Type}
    (first second : Outcome σ α) : Prop where
  result : second.result = first.result
  state : second.state = first.state
  trace : second.trace.unlogged = first.trace.unlogged

/- Passing standard output on does not tell them apart, either. -/
theorem Outcome.SameButRecords.flushed
    {φ δ α : Type}
    {first second : Outcome (World φ δ) α}
    (hSame : SameButRecords first second) :
    SameButRecords first.flushed second.flushed := by
  rcases first with ⟨_, _, trace⟩
  rcases second with ⟨result, left, trace'⟩
  rcases hSame with ⟨rfl, rfl, hTrace⟩
  cases hAnswer : left.streams.answer .out .flush with
  | none =>
      rw [flushed_done hAnswer, flushed_done hAnswer]
      refine ⟨rfl, rfl, ?_⟩
      rw [Trace.unlogged_append, Trace.unlogged_append, hTrace]
  | some fault =>
      rw [flushed_failed hAnswer, flushed_failed hAnswer]
      exact ⟨rfl, rfl, hTrace⟩

/-
  A machine over a tree whose children answer the statuses on
  its device, one after the other.  None can be started when
  they are used up.
-/
def LexicalTree.queue : Machine LexicalTree (List Int) where
  files := fileSystem
  launch := fun _ tree statuses request =>
    match statuses with
    | [] => ⟨.error (.spawn request.path "gone"), tree, [], []⟩
    | status :: later => ⟨.ok status, tree, later, []⟩

/- It differs in statuses from a tree with only one of them. -/
theorem LexicalTree.queue_differs
    (status : Int) :
    Machine.DifferInStatuses
      (fun _ ending => ending = .ok status)
      LexicalTree.queue LexicalTree.machine where
  files := rfl
  settles := by
    rintro _ _ statuses _ _ rfl
    refine ⟨?_, Or.inl ⟨status, rfl⟩⟩
    cases statuses with
    | nil => exact Or.inr ⟨_, _, rfl⟩
    | cons next later => exact Or.inl ⟨next, rfl⟩
  leaves := by
    rintro _ _ statuses _ _ rfl
    cases statuses with
    | nil => rfl
    | cons next later => rfl
  devices := fun _ _ _ _ _ hEnding => hEnding

namespace Shell

variable {φ δ ε : Type}

/-
  Statuses of children are neither shown nor passed on.  Two
  sessions that differ in what their children answer, child by
  child, do the same in the same order: they write, probe and
  request the same, end in the same directory and have the
  same result.  Of the state, only the last status can differ,
  besides the device that made the answers.  And a child that
  cannot be started leaves the same as one that answers 1, in
  every line and every session.
-/
theorem run_hides_statuses
    {D : δ → ε → Prop}
    (M : Machine φ δ)
    (N : Machine φ ε)
    (prompt : Text)
    (c : Console φ δ)
    (device : ε)
    (hDiffer : Machine.DifferInStatuses D M N)
    (hDevice : D c.world.device device) :
    let first := run M prompt c
    let second :=
      run N prompt ⟨c.world.withDevice device, c.input⟩
    (second.result = first.result ∧
        (∀ channel,
          second.trace.written channel =
            first.trace.written channel) ∧
        second.trace.requests = first.trace.requests ∧
        second.trace.probes = first.trace.probes ∧
        second.trace.own = first.trace.own ∧
        N.files.workingDirectory second.state.world.files =
          M.files.workingDirectory first.state.world.files ∧
        ∃ status device',
          second.state =
            ⟨{ first.state.world.withDevice device' with
                lastStatus := status },
              first.state.input⟩) ∧
      ∀ L : Machine φ δ, L.settled = M.settled →
        Outcome.SameButRecords first (run L prompt c) ∧
          ∀ line w,
            Outcome.SameButRecords (execute M line w)
              (execute L line w) := by
  intro first second
  constructor
  · let d : Console φ ε := ⟨c.world.withDevice device, c.input⟩
    have hAlike :
        Console.Alike (Tolerance.ofStatuses D) c d :=
      ⟨⟨rfl, rfl, rfl, rfl, trivial, hDevice⟩, rfl⟩
    have hTwin := run_twin hDiffer.twin prompt c d hAlike
    have hOwn : second.trace.own = first.trace.own :=
      hTwin.trace
    have hWorld : World.Alike _ first.state.world
        second.state.world :=
      hTwin.state.world
    refine ⟨hTwin.result.eq, ?_, ?_, ?_, hOwn, ?_, ?_⟩
    · intro channel
      rw [← Trace.written_own, hOwn, Trace.written_own]
    · rw [← Trace.requests_own, hOwn, Trace.requests_own]
    · rw [← Trace.probes_own, hOwn, Trace.probes_own]
    · rw [hDiffer.files, hWorld.files]
    · refine ⟨second.state.world.lastStatus,
        second.state.world.device, ?_⟩
      rw [← hWorld.eq_withDevice]
      exact congrArg (Console.mk _) hTwin.state.input
  · intro L hSettled
    have hMachines := Machine.twin_of_settled hSettled.symm
    have hSame (w : World φ δ) :
        World.Alike (Tolerance.ofRecords δ) w w :=
      ⟨rfl, rfl, rfl, rfl, rfl, rfl⟩
    constructor
    · have hTwin := run_twin hMachines prompt c c
        ⟨hSame c.world, rfl⟩
      exact ⟨hTwin.result.eq, hTwin.state.eq, hTwin.trace⟩
    · intro line w
      have hTwin := execute_twin hMachines line w w (hSame w)
      exact ⟨hTwin.result.eq, hTwin.state.eq, hTwin.trace⟩

/-
  Whether the second child answers 7 or cannot be started, the
  session shows the same, also in the empty line after it.
  Only the last status tells, and it does not tell a child that
  cannot be started from one that answers 1.
-/
theorem run_hides_statuses_unstarted :
    let w : World LexicalTree (List Int) :=
      { environment := [("PATH", "/bin")]
        files := LexicalTree.build "/" [] [("/bin/show", 0o100755)]
        device := [300] }
    let input : Text := "show\nhello\nshow a\n\n"
    let first := run LexicalTree.queue "$ " ⟨w, input⟩
    let second :=
      run LexicalTree.machine "$ " ⟨w.withDevice (.ok 7), input⟩
    let other := run LexicalTree.queue.settled "$ " ⟨w, input⟩
    Machine.DifferInStatuses (fun _ ending => ending = .ok 7)
        LexicalTree.queue LexicalTree.machine ∧
      second.trace.written .out = first.trace.written .out ∧
      second.trace.requests = first.trace.requests ∧
      first.trace.requests.length = 2 ∧
      first.state.world.lastStatus = 1 ∧
      second.state.world.lastStatus = 7 ∧
      other.state = first.state := by
  intro w input first second other
  have hDiffer := LexicalTree.queue_differs 7
  rcases run_hides_statuses LexicalTree.queue
      LexicalTree.machine "$ " ⟨w, input⟩ (.ok 7) hDiffer rfl with
    ⟨⟨-, hWritten, hRequests, -⟩, hSettled⟩
  have hOther :=
    (hSettled _ LexicalTree.queue.settled_settled).1
  have hFirst : first = Progress.outcome "$ " _ :=
    run_eq_outcome LexicalTree.queue "$ " fun _ _ => rfl
  have hSecond : second = Progress.outcome "$ " _ :=
    run_eq_outcome LexicalTree.machine "$ " fun _ _ => rfl
  refine ⟨hDiffer, hWritten .out, hRequests, ?_, ?_, ?_,
    hOther.state⟩
  · rw [hFirst]
    decide
  · rw [hFirst]
    decide
  · rw [hSecond]
    decide

end Shell

end LineShell
