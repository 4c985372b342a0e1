import LineShell.Proofs.Action
import LineShell.Proofs.Streams
import LineShell.World

/-
  Runs of the elementary actions, and the effects that they
  and what is built from them respect.

  Speech writes, flushes and logs.  A quiet search probes and
  logs, and a lookup is a search that speaks.  Travel speaks
  and changes the working directory.

  Main declarations:
    * `World.operate_done`
    * `World.operate_failed`
    * `World.write_accepted`
    * `Effect.Speech`
    * `Effect.Quiet`
    * `Effect.Lookup`
    * `Effect.Travel`
    * `Effect.unseen`
    * `Effect.grounded`
-/

------------------------------------------------------------
-- Running Elementary Actions
------------------------------------------------------------

namespace LineShell

namespace World

variable {φ δ : Type}
variable {channel : Channel}
variable {operation : Operation}
variable {w : World φ δ}
variable {fault : Fault}

/- Streams that always answer alike leave the world alike. -/
theorem asked_of_constant
    (hConstant : w.streams.Constant channel operation) :
    w.asked channel operation = w := by
  unfold asked
  rw [hConstant.after_eq]

/- What a stream does leaves its event. -/
theorem operate_done
    (hDone : w.streams.answer channel operation = none)
    (event : Event) :
    operate channel operation event w =
      ⟨.ok (), w.asked channel operation, [event]⟩ := by
  simp [operate, hDone]

/- What a stream fails at leaves nothing but its fault. -/
theorem operate_failed
    (hFails : w.streams.answer channel operation = some fault)
    (event : Event) :
    operate channel operation event w =
      ⟨.error fault, w.asked channel operation, []⟩ := by
  simp [operate, hFails]

/- A stream that works takes the text. -/
theorem write_accepted
    (hTakes : w.streams.Takes channel .write)
    (text : Text) :
    write channel text w = ⟨.ok (), w, [.wrote channel text]⟩ := by
  rw [write, operate_done hTakes.answer,
    asked_of_constant hTakes.constant]

/- A stream that fails takes nothing. -/
theorem write_refused
    (hFails : w.streams.answer channel .write = some fault)
    (text : Text) :
    write channel text w =
      ⟨.error fault, w.asked channel .write, []⟩ :=
  operate_failed hFails _

/- A text that is written is followed by the status. -/
theorem say_done
    (hDone : w.streams.answer channel .write = none)
    (text : Text)
    (status : Int) :
    (do
      write channel text
      return status : Action (World φ δ) Int) w =
      ⟨.ok status, w.asked channel .write,
        [.wrote channel text]⟩ := by
  simp [write, operate_done hDone]

theorem say_accepted
    (hTakes : w.streams.Takes channel .write)
    (text : Text)
    (status : Int) :
    (do
      write channel text
      return status : Action (World φ δ) Int) w =
      ⟨.ok status, w, [.wrote channel text]⟩ := by
  rw [say_done hTakes.answer, asked_of_constant hTakes.constant]

/- A text that is refused has no status. -/
theorem say_refused
    (hFails : w.streams.answer channel .write = some fault)
    (text : Text)
    (status : Int) :
    (do
      write channel text
      return status : Action (World φ δ) Int) w =
      ⟨.error fault, w.asked channel .write, []⟩ := by
  simp only [Action.bind_apply, write_refused hFails,
    Outcome.andThen_error]

/- A stream that works passes everything on. -/
theorem flush_accepted
    (hTakes : w.streams.Takes channel .flush) :
    flush channel w = ⟨.ok (), w, [.flushed channel]⟩ := by
  rw [flush, operate_done hTakes.answer,
    asked_of_constant hTakes.constant]

@[simp] theorem log_apply
    (source : Source)
    (message : Text)
    (w : World φ δ) :
    log source message w =
      ⟨.ok (), w, [.logged ⟨.debug, source, message⟩]⟩ :=
  rfl

@[simp] theorem remember_apply
    (status : Int)
    (w : World φ δ) :
    remember status w =
      ⟨.ok (), { w with lastStatus := status }, []⟩ :=
  rfl

/- The child that a request starts in a world. -/
def child
    (w : World φ δ)
    (M : Machine φ δ)
    (request : Request) : Launch φ δ :=
  M.launch w.environment w.files w.device request

/- A launch reports its child and what the child leaves. -/
theorem launch_apply
    (M : Machine φ δ)
    (request : Request)
    (w : World φ δ) :
    launch M request w =
      ⟨(w.child M request).result,
        { w with
          files := (w.child M request).files
          device := (w.child M request).device },
        .launched request ::
          Trace.ofChild (w.child M request).writes⟩ :=
  rfl

end World

end LineShell

------------------------------------------------------------
-- Classes of Effects
------------------------------------------------------------

namespace LineShell

namespace Effect

variable {φ δ : Type}

/-
  Writing, flushing and logging have the effect, and so has an
  operation that a stream fails at.
-/
structure Speech
    (R : Effect (World φ δ)) : Prop
    extends Composes R where
  wrote :
    ∀ w channel text,
      R w [.wrote channel text] (w.asked channel .write)
  flushed :
    ∀ w channel,
      R w [.flushed channel] (w.asked channel .flush)
  failed :
    ∀ w channel operation, R w [] (w.asked channel operation)
  logged : ∀ w record, R w [.logged record] w

/- Logging and probing a file have the effect. -/
structure Quiet
    (R : Effect (World φ δ)) : Prop
    extends Composes R where
  logged : ∀ w record, R w [.logged record] w
  probed : ∀ w path, R w [.probed path] w

/- Both speech and a quiet search have the effect. -/
structure Lookup
    (R : Effect (World φ δ)) : Prop
    extends Speech R, Quiet R

/- Speech and entering a directory have the effect. -/
structure Travel
    (M : Machine φ δ)
    (R : Effect (World φ δ)) : Prop
    extends Speech R where
  enter : ∀ path, (World.enterDirectory M path).Respects R

end Effect

end LineShell

------------------------------------------------------------
-- Effects of Speech and Travel
------------------------------------------------------------

namespace LineShell

namespace Effect

variable {φ δ : Type}
variable {α : Type}
variable {view : Event → Option α}

/- No event of the run is in the view. -/
def unseen
    (view : Event → Option α) : Effect (World φ δ) :=
  fun _ trace _ => trace.filterMap view = []

theorem unseen_speech
    (hWrote : ∀ channel text, view (.wrote channel text) = none)
    (hFlushed : ∀ channel, view (.flushed channel) = none)
    (hLogged : ∀ record, view (.logged record) = none) :
    (unseen view : Effect (World φ δ)).Speech where
  still := fun _ => rfl
  join := by
    intro w₁ t₁ w₂ t₂ w₃ hFirst hSecond
    unfold unseen at hFirst hSecond ⊢
    rw [List.filterMap_append, hFirst, hSecond]
    rfl
  wrote := fun w channel text => by
    simp [unseen, hWrote channel text]
  flushed := fun w channel => by
    simp [unseen, hFlushed channel]
  failed := fun _ _ _ => rfl
  logged := fun w record => by
    simp [unseen, hLogged record]

/- Nothing is written to the stream. -/
def mute
    (channel : Channel) : Effect (World φ δ) :=
  fun _ trace _ => trace.written channel = []

theorem mute_quiet
    (channel : Channel) :
    (mute channel : Effect (World φ δ)).Quiet where
  still := fun _ => rfl
  join := by
    intro w₁ t₁ w₂ t₂ w₃ hFirst hSecond
    unfold mute at hFirst hSecond ⊢
    rw [Trace.written_append, hFirst, hSecond]
    rfl
  logged := fun _ _ => rfl
  probed := fun _ _ => rfl

/- The files stay as they are. -/
def grounded : Effect (World φ δ) :=
  fun before _ after => after.files = before.files

theorem grounded_lookup :
    (grounded : Effect (World φ δ)).Lookup where
  still := fun _ => rfl
  join := fun hFirst hSecond => hSecond.trans hFirst
  wrote := fun _ _ _ => rfl
  flushed := fun _ _ => rfl
  failed := fun _ _ _ => rfl
  logged := fun _ _ => rfl
  probed := fun _ _ => rfl

/- Nor is a move, if it is not in the view. -/
theorem unseen_travel
    (hSpeech : (unseen view : Effect (World φ δ)).Speech)
    (hMoved : ∀ path, view (.moved path) = none)
    (M : Machine φ δ) :
    (unseen view : Effect (World φ δ)).Travel M where
  toSpeech := hSpeech
  enter := by
    intro path w
    have hSeen : [Event.moved path].filterMap view = [] := by
      simp [hMoved path]
    unfold World.enterDirectory
    cases M.files.enter w.files path with
    | ok files => exact hSeen
    | error fault => exact hSeen

/- Neither speech nor a search nor a move asks for a child. -/
theorem unrequested_lookup :
    (unseen Event.request? : Effect (World φ δ)).Lookup where
  toSpeech :=
    unseen_speech (fun _ _ => rfl) (fun _ => rfl) (fun _ => rfl)
  probed := fun _ _ => rfl

theorem unrequested_travel
    (M : Machine φ δ) :
    (unseen Event.request? : Effect (World φ δ)).Travel M :=
  unseen_travel unrequested_lookup.toSpeech (fun _ => rfl) M

/- Neither speech nor a move probes a file. -/
theorem unprobed_travel
    (M : Machine φ δ) :
    (unseen Event.probe? : Effect (World φ δ)).Travel M :=
  unseen_travel
    (unseen_speech (fun _ _ => rfl) (fun _ => rfl)
      (fun _ => rfl))
    (fun _ => rfl) M

end Effect

end LineShell

------------------------------------------------------------
-- Elementary Actions
------------------------------------------------------------

namespace LineShell

namespace World

variable {φ δ : Type}
variable {R : Effect (World φ δ)}

/- An operation respects what its event and its failure do. -/
theorem operate_respects
    (hR : R.Speech)
    (channel : Channel)
    (operation : Operation)
    (event : Event)
    (hEvent : ∀ w, R w [event] (w.asked channel operation)) :
    (operate channel operation event :
      Action (World φ δ) Unit).Respects R := by
  intro w
  cases hAnswer : w.streams.answer channel operation with
  | none =>
      rw [operate_done hAnswer]
      exact hEvent w
  | some fault =>
      rw [operate_failed hAnswer]
      exact hR.failed w channel operation

theorem write_respects
    (hR : R.Speech)
    (channel : Channel)
    (text : Text) :
    (write channel text : Action (World φ δ) Unit).Respects R :=
  operate_respects hR channel .write _
    fun w => hR.wrote w channel text

theorem flush_respects
    (hR : R.Speech)
    (channel : Channel) :
    (flush channel : Action (World φ δ) Unit).Respects R :=
  operate_respects hR channel .flush _
    fun w => hR.flushed w channel

theorem log_respects
    (hR : R.Speech)
    (source : Source)
    (message : Text) :
    (log source message : Action (World φ δ) Unit).Respects R :=
  fun w => hR.logged w _

theorem workingDirectory_respects
    (hR : R.Composes)
    (M : Machine φ δ) :
    (workingDirectory M).Respects R :=
  fun w => Action.Respects.ofExcept hR _ w

/- A text of a line by itself, whatever its length. -/
theorem say_respects
    (hR : R.Speech)
    (channel : Channel)
    (text : Text)
    (status : Int) :
    (do
      write channel text
      return status : Action (World φ δ) Int).Respects R := by
  apply Action.Respects.bind hR.toComposes
    (write_respects hR channel text)
  intro _
  exact Action.Respects.pure hR.toComposes status

end World

end LineShell
