import LineShell.Streams

/-
  Streams that take what is asked of them, streams that always
  answer alike, and streams as a run leaves them.

  Main declarations:
    * `Streams.Takes`
    * `Streams.Works`
    * `Streams.Flushes`
    * `Streams.Constant`
    * `Streams.Later`
-/

------------------------------------------------------------
-- Constant Answers
------------------------------------------------------------

namespace LineShell

namespace Streams

variable {s : Streams}
variable {channel : Channel}
variable {operation : Operation}

/- No operation of a kind on a stream will fail. -/
def Takes
    (s : Streams)
    (channel : Channel)
    (operation : Operation) : Prop :=
  ∀ count, s.answers channel operation count = none

/- No operation on a stream will fail. -/
def Works
    (s : Streams)
    (channel : Channel) : Prop :=
  ∀ operation, s.Takes channel operation

/- No flush of either stream will fail. -/
def Flushes
    (s : Streams) : Prop :=
  ∀ channel, s.Takes channel .flush

/- The next flush of neither stream will fail. -/
def FlushesNext
    (s : Streams) : Prop :=
  ∀ channel, s.answer channel .flush = none

instance
    (s : Streams) :
    Decidable s.FlushesNext :=
  decidable_of_iff
    (s.answer .out .flush = none ∧ s.answer .err .flush = none)
    ⟨fun hBoth channel => by
        cases channel with
        | out => exact hBoth.1
        | err => exact hBoth.2,
      fun hNext => ⟨hNext .out, hNext .err⟩⟩

/- Some flush still to come will fail with the fault. -/
def FlushFails
    (s : Streams)
    (fault : Fault) : Prop :=
  ∃ channel count, s.answers channel .flush count = some fault

/- An operation is always answered alike. -/
def Constant
    (s : Streams)
    (channel : Channel)
    (operation : Operation) : Prop :=
  ∀ count,
    s.answers channel operation count =
      s.answer channel operation

theorem Takes.answer
    (hTakes : s.Takes channel operation) :
    s.answer channel operation = none :=
  hTakes 0

theorem Flushes.next
    (hFlushes : s.Flushes) :
    s.FlushesNext :=
  fun channel => (hFlushes channel).answer

/- Other answers to writes leave the flushes as they are. -/
theorem Flushes.answering_write
    {answers : Nat → Option Fault}
    (hFlushes : s.Flushes) :
    (s.answering channel .write answers).Flushes := by
  intro other count
  have hKind :
      ¬ (other = channel ∧ Operation.flush = .write) := by
    simp
  exact (congrFun (if_neg hKind) count).trans
    (hFlushes other count)

theorem Takes.constant
    (hTakes : s.Takes channel operation) :
    s.Constant channel operation :=
  fun count => (hTakes count).trans hTakes.answer.symm

/- What is always answered alike leaves the streams alike. -/
theorem Constant.after_eq
    (hConstant : s.Constant channel operation) :
    s.after channel operation = s := by
  cases s with
  | mk answers =>
      simp only [after, mk.injEq]
      funext other kind count
      by_cases hSame : other = channel ∧ kind = operation
      · rw [if_pos hSame, hSame.1, hSame.2]
        exact (hConstant (count + 1)).trans
          (hConstant count).symm
      · exact if_neg hSame

/- An operation has no part in how others are answered. -/
theorem answer_after
    {other : Channel}
    {kind : Operation}
    (hOther : ¬ (other = channel ∧ kind = operation)) :
    (s.after channel operation).answer other kind =
      s.answer other kind :=
  if_neg hOther

end Streams

end LineShell

------------------------------------------------------------
-- Later Streams
------------------------------------------------------------

namespace LineShell

namespace Streams

variable {s₁ s₂ s₃ : Streams}
variable {channel : Channel}
variable {operation : Operation}

/- The second streams are what a run may leave of the first. -/
def Later
    (s₁ s₂ : Streams) : Prop :=
  ∀ channel operation, ∃ used, ∀ count,
    s₂.answers channel operation count =
      s₁.answers channel operation (used + count)

theorem Later.refl
    (s : Streams) :
    s.Later s :=
  fun channel operation => ⟨0, fun count => by
    rw [Nat.zero_add]⟩

theorem Later.trans
    (hFirst : s₁.Later s₂)
    (hSecond : s₂.Later s₃) :
    s₁.Later s₃ := by
  intro channel operation
  rcases hFirst channel operation with ⟨used₁, hUsed₁⟩
  rcases hSecond channel operation with ⟨used₂, hUsed₂⟩
  refine ⟨used₁ + used₂, fun count => ?_⟩
  rw [hUsed₂, hUsed₁, Nat.add_assoc]

theorem later_after
    (s : Streams)
    (channel : Channel)
    (operation : Operation) :
    s.Later (s.after channel operation) := by
  intro other kind
  by_cases hSame : other = channel ∧ kind = operation
  · exact ⟨1, fun count =>
      (if_pos hSame).trans (by rw [Nat.add_comm])⟩
  · exact ⟨0, fun count =>
      (if_neg hSame).trans (by rw [Nat.zero_add])⟩

theorem Later.takes
    (hLater : s₁.Later s₂)
    (hTakes : s₁.Takes channel operation) :
    s₂.Takes channel operation := by
  intro count
  rcases hLater channel operation with ⟨used, hUsed⟩
  rw [hUsed, hTakes]

theorem Later.works
    (hLater : s₁.Later s₂)
    (hWorks : s₁.Works channel) :
    s₂.Works channel :=
  fun operation => hLater.takes (hWorks operation)

theorem Later.flushes
    (hLater : s₁.Later s₂)
    (hFlushes : s₁.Flushes) :
    s₂.Flushes :=
  fun channel => hLater.takes (hFlushes channel)

theorem Later.flushFails
    {fault : Fault}
    (hLater : s₁.Later s₂)
    (hFails : s₂.FlushFails fault) :
    s₁.FlushFails fault := by
  rcases hFails with ⟨channel, count, hAnswer⟩
  rcases hLater channel .flush with ⟨used, hUsed⟩
  exact ⟨channel, used + count, (hUsed count).symm.trans hAnswer⟩

/- Streams that always answer alike stay as they are. -/
theorem Later.eq_of_constant
    (hLater : s₁.Later s₂)
    (hConstant :
      ∀ channel operation, s₁.Constant channel operation) :
    s₂ = s₁ := by
  cases s₁ with
  | mk answers₁ =>
      cases s₂ with
      | mk answers₂ =>
          simp only [mk.injEq]
          funext channel operation count
          rcases hLater channel operation with ⟨used, hUsed⟩
          have hAlike := hConstant channel operation
          exact (hUsed count).trans
            ((hAlike _).trans (hAlike count).symm)

end Streams

end LineShell
