import LineShell.Trace

/-
  Actions: what the interpreter does, with its faults, its
  state, and the trace that it leaves.

  A fault ends an action but undoes nothing: the state and the
  trace up to the fault stay.

  Main declarations:
    * `Outcome`
    * `Action`
    * `Action.emit`
    * `Action.raise`
    * `Action.attempt`
    * `Action.ensuring`
    * `Action.focus`
    * `Inquiry`
-/

------------------------------------------------------------
-- Actions
------------------------------------------------------------

namespace LineShell

/- How an action ended. -/
structure Outcome (σ α : Type) where
  result : Except Fault α
  state : σ
  trace : Trace

/- A computation over a state that can fail and leaves a trace. -/
def Action (σ α : Type) :=
  σ → Outcome σ α

namespace Action

variable {σ τ α β : Type}

/- Run an action from a state. -/
def run
    (m : Action σ α)
    (s : σ) : Outcome σ α :=
  m s

/- Answer without doing anything. -/
protected def pure
    (a : α) : Action σ α :=
  fun s => ⟨.ok a, s, []⟩

/- Do one action and then the next, unless the first fails. -/
protected def bind
    (m : Action σ α)
    (next : α → Action σ β) : Action σ β :=
  fun s =>
    let first := m s
    match first.result with
    | .ok a =>
        let second := next a first.state
        ⟨second.result, second.state,
          first.trace ++ second.trace⟩
    | .error fault =>
        ⟨.error fault, first.state, first.trace⟩

instance : Monad (Action σ) where
  pure := Action.pure
  bind := Action.bind

/- Leave one event. -/
def emit
    (event : Event) : Action σ Unit :=
  fun s => ⟨.ok (), s, [event]⟩

/- Fail. -/
def raise
    (fault : Fault) : Action σ α :=
  fun s => ⟨.error fault, s, []⟩

/- The current state. -/
def get : Action σ σ :=
  fun s => ⟨.ok s, s, []⟩

/- Change the state. -/
def update
    (f : σ → σ) : Action σ Unit :=
  fun s => ⟨.ok (), f s, []⟩

/- Answer or fail. -/
def ofExcept :
    Except Fault α → Action σ α
  | .ok a => Action.pure a
  | .error fault => raise fault

/- Do an action and answer with how it ended. -/
def attempt
    (m : Action σ α) : Action σ (Except Fault α) :=
  fun s =>
    let first := m s
    ⟨.ok first.result, first.state, first.trace⟩

/-
  Do a second action however the first one ends.  The answer
  is that of the first, unless the second fails.
-/
def ensuring
    (m : Action σ α)
    (after : Action σ Unit) : Action σ α :=
  Action.bind (attempt m) fun result =>
    Action.bind after fun _ =>
      ofExcept result

/- Do an action on a part of the state. -/
def focus
    (part : τ → σ)
    (replace : σ → τ → τ)
    (m : Action σ α) : Action τ α :=
  fun t =>
    let inner := m (part t)
    ⟨inner.result, replace inner.state t, inner.trace⟩

end Action

end LineShell

------------------------------------------------------------
-- Inquiries
------------------------------------------------------------

namespace LineShell

/-
  A question to the host: it can fail and leaves a trace, and
  changes nothing.
-/
structure Inquiry (α : Type) where
  result : Except Fault α
  trace : Trace

namespace Action

variable {σ α : Type}

/- Ask a question about the current state. -/
def inquire
    (ask : σ → Inquiry α) : Action σ α :=
  fun s =>
    let inquiry := ask s
    ⟨inquiry.result, s, inquiry.trace⟩

end Action

end LineShell

------------------------------------------------------------
-- Laws
------------------------------------------------------------

namespace LineShell

namespace Action

variable {σ α β γ : Type}

/- Answering with what was answered changes nothing. -/
theorem bind_pure
    (m : Action σ α) :
    Action.bind m Action.pure = m := by
  funext s
  unfold Action.bind Action.pure
  cases hRun : m s with
  | mk result s₁ trace =>
      cases result with
      | ok a => simp
      | error fault => simp

/- Only the order of actions counts, not their grouping. -/
theorem bind_assoc
    (m : Action σ α)
    (f : α → Action σ β)
    (g : β → Action σ γ) :
    Action.bind (Action.bind m f) g =
      Action.bind m (fun a => Action.bind (f a) g) := by
  funext s
  unfold Action.bind
  cases hFirst : (m s).result with
  | error fault => simp [hFirst]
  | ok a =>
      cases hSecond : (f a (m s).state).result with
      | error fault => simp [hFirst, hSecond]
      | ok b => simp [hFirst, hSecond]

instance : LawfulMonad (Action σ) :=
  LawfulMonad.mk' (Action σ)
    bind_pure
    (fun _ _ => rfl)
    bind_assoc

end Action

end LineShell
