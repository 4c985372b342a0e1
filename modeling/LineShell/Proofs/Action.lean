import LineShell.Action
import LineShell.Proofs.Trace

/-
  How the combinators of actions run, and what can be said of
  every run of an action.

  An effect relates the state before a run, its trace, and the
  state after it.  Effects that compose are respected by an
  action as soon as its parts respect them, whether the parts
  answer or fail.

  Main declarations:
    * `Outcome.andThen`
    * `Outcome.endedBy`
    * `Action.bind_apply`
    * `Effect.Composes`
    * `Action.Respects`
    * `Action.Respects.bind`
-/

------------------------------------------------------------
-- Running Combinators
------------------------------------------------------------

namespace LineShell

namespace Outcome

variable {σ α β : Type}

/- Go on from an outcome with the next action, if it answered. -/
def andThen
    (first : Outcome σ α)
    (next : α → Action σ β) : Outcome σ β :=
  match first.result with
  | .ok a =>
      let second := next a first.state
      ⟨second.result, second.state,
        first.trace ++ second.trace⟩
  | .error fault =>
      ⟨.error fault, first.state, first.trace⟩

@[simp] theorem andThen_ok
    (a : α)
    (s : σ)
    (trace : Trace)
    (next : α → Action σ β) :
    andThen ⟨.ok a, s, trace⟩ next =
      ⟨(next a s).result, (next a s).state,
        trace ++ (next a s).trace⟩ :=
  rfl

@[simp] theorem andThen_error
    (fault : Fault)
    (s : σ)
    (trace : Trace)
    (next : α → Action σ β) :
    andThen ⟨.error fault, s, trace⟩ next =
      ⟨.error fault, s, trace⟩ :=
  rfl

/- End an outcome by a last action, whose fault goes first. -/
def endedBy
    (first : Outcome σ α)
    (last : Action σ Unit) : Outcome σ α :=
  let final := last first.state
  match final.result with
  | .ok _ =>
      ⟨first.result, final.state, first.trace ++ final.trace⟩
  | .error fault =>
      ⟨.error fault, final.state, first.trace ++ final.trace⟩

end Outcome

namespace Action

variable {σ τ α β : Type}

@[simp] theorem pure_apply
    (a : α)
    (s : σ) :
    (pure a : Action σ α) s = ⟨.ok a, s, []⟩ :=
  rfl

@[simp] theorem bind_apply
    (m : Action σ α)
    (next : α → Action σ β)
    (s : σ) :
    (m >>= next) s = (m s).andThen next :=
  rfl

@[simp] theorem map_apply
    (f : α → β)
    (m : Action σ α)
    (s : σ) :
    (f <$> m) s = (m s).andThen fun a => pure (f a) :=
  rfl

@[simp] theorem emit_apply
    (event : Event)
    (s : σ) :
    emit event s = ⟨.ok (), s, [event]⟩ :=
  rfl

@[simp] theorem raise_apply
    (fault : Fault)
    (s : σ) :
    (raise fault : Action σ α) s = ⟨.error fault, s, []⟩ :=
  rfl

@[simp] theorem get_apply
    (s : σ) :
    get s = ⟨.ok s, s, []⟩ :=
  rfl

@[simp] theorem update_apply
    (f : σ → σ)
    (s : σ) :
    update f s = ⟨.ok (), f s, []⟩ :=
  rfl

@[simp] theorem attempt_apply
    (m : Action σ α)
    (s : σ) :
    attempt m s = ⟨.ok (m s).result, (m s).state, (m s).trace⟩ :=
  rfl

@[simp] theorem focus_apply
    (part : τ → σ)
    (replace : σ → τ → τ)
    (m : Action σ α)
    (t : τ) :
    focus part replace m t =
      ⟨(m (part t)).result, replace (m (part t)).state t,
        (m (part t)).trace⟩ :=
  rfl

@[simp] theorem inquire_apply
    (ask : σ → Inquiry α)
    (s : σ) :
    inquire ask s = ⟨(ask s).result, s, (ask s).trace⟩ :=
  rfl

theorem ensuring_apply
    (m : Action σ α)
    (last : Action σ Unit)
    (s : σ) :
    ensuring m last s = (m s).endedBy last := by
  unfold Outcome.endedBy
  cases hLast : (last (m s).state).result with
  | error fault =>
      simp [ensuring, Action.bind, attempt, hLast]
  | ok _ =>
      cases hResult : (m s).result with
      | ok a =>
          simp [ensuring, Action.bind, attempt, hResult, hLast,
            ofExcept, Action.pure]
      | error fault =>
          simp [ensuring, Action.bind, attempt, hResult, hLast,
            ofExcept, raise]

end Action

end LineShell

------------------------------------------------------------
-- Effects
------------------------------------------------------------

namespace LineShell

/- What a run does: the state before, the trace, the state after. -/
abbrev Effect (σ : Type) :=
  σ → Trace → σ → Prop

namespace Effect

variable {σ : Type}

/-
  An effect composes when standing still has it, and two runs
  that have it have it together.
-/
structure Composes
    (R : Effect σ) : Prop where
  still : ∀ s, R s [] s
  join :
    ∀ {s₁ t₁ s₂ t₂ s₃},
      R s₁ t₁ s₂ → R s₂ t₂ s₃ → R s₁ (t₁ ++ t₂) s₃

end Effect

namespace Action

variable {σ α β : Type}
variable {R : Effect σ}

/- Every run of the action has the effect. -/
def Respects
    (R : Effect σ)
    (m : Action σ α) : Prop :=
  ∀ s, R s (m s).trace (m s).state

namespace Respects

theorem pure
    (hR : R.Composes)
    (a : α) :
    (Pure.pure a : Action σ α).Respects R :=
  fun s => hR.still s

theorem raise
    (hR : R.Composes)
    (fault : Fault) :
    (Action.raise fault : Action σ α).Respects R :=
  fun s => hR.still s

theorem get
    (hR : R.Composes) :
    (Action.get : Action σ σ).Respects R :=
  fun s => hR.still s

theorem ofExcept
    (hR : R.Composes)
    (result : Except Fault α) :
    (Action.ofExcept result : Action σ α).Respects R := by
  cases result with
  | ok a => exact pure hR a
  | error fault => exact raise hR fault

theorem attempt
    {m : Action σ α}
    (hM : m.Respects R) :
    m.attempt.Respects R :=
  fun s => hM s

/- The parts of a sequence pass their effect on to it. -/
theorem bind
    (hR : R.Composes)
    {m : Action σ α}
    {next : α → Action σ β}
    (hM : m.Respects R)
    (hNext : ∀ a, (next a).Respects R) :
    (m >>= next).Respects R := by
  intro s
  have hFirst := hM s
  rw [bind_apply]
  unfold Outcome.andThen
  cases hResult : (m s).result with
  | ok a => exact hR.join hFirst (hNext a (m s).state)
  | error fault => exact hFirst

end Respects

end Action

end LineShell
