import LineShell.CommandLine
import LineShell.Proofs.Text

/-
  Reading a line and writing a command as a line are inverse to
  each other.

  `IsBody` says by itself what is left of a line without its
  terminator, and `CommandLine.Writable` which commands a line
  can hold.  Reading takes nothing from a line but its
  terminator, so a line holds a command exactly if its body is
  how the command is written.

  Main declarations:
    * `unwords_splitWords`
    * `IsBody`
    * `isBody_iff`
    * `CommandLine.Writable`
    * `CommandLine.parse?_eq_none_iff`
    * `CommandLine.parse?_eq_some_iff`
    * `CommandLine.parse?_eq_some_iff_isBody`
    * `CommandLine.parse?_inverts_render`
-/

------------------------------------------------------------
-- Words of a Line
------------------------------------------------------------

namespace LineShell

/- Joining the words of a text gives it back. -/
theorem unwords_splitWords
    (t : Text) :
    Text.unwords (splitWords t) = t := by
  cases t with
  | nil => rfl
  | cons c t =>
      simp [splitWords, Text.unwords]

/- Only the empty text has no words. -/
theorem splitWords_eq_nil_iff
    (t : Text) :
    splitWords t = [] ↔ t = [] := by
  constructor
  · intro hWords
    rw [← unwords_splitWords t, hWords]
    rfl
  · intro hText
    rw [hText]
    rfl

namespace CommandLine

/- A line has no command exactly if it has no words. -/
theorem parse?_eq_none_iff
    (line : Text) :
    parse? line = none ↔
      splitWords (stripTerminator line) = [] := by
  unfold parse?
  cases splitWords (stripTerminator line) with
  | nil => simp [ofWords?]
  | cons name args => simp [ofWords?]

/- Otherwise the words are the name and the arguments. -/
theorem parse?_eq_some_iff
    (line : Text)
    (command : CommandLine) :
    parse? line = some command ↔
      splitWords (stripTerminator line) = command.words := by
  unfold parse? words
  cases splitWords (stripTerminator line) with
  | nil => simp [ofWords?]
  | cons name args =>
      cases command with
      | mk name' args' => simp [ofWords?]

end CommandLine

end LineShell

------------------------------------------------------------
-- Bodies of Lines
------------------------------------------------------------

namespace LineShell

/-
  The body of a line: what comes before its last character, if
  that is a line feed, and else the whole line.
-/
inductive IsBody : Text → Text → Prop where
  | ended (body : Text) : IsBody (body ++ ['\n']) body
  | whole
      {line : Text}
      (hOpen : Text.endsWith '\n' line = false) :
      IsBody line line

variable {line body : Text}

/- Every line has one body. -/
theorem isBody_iff :
    IsBody line body ↔ stripTerminator line = body := by
  constructor
  · intro hBody
    cases hBody with
    | ended =>
        rw [stripTerminator,
          if_pos (Text.endsWith_concat body '\n'),
          List.dropLast_concat]
    | whole hOpen => simp [stripTerminator, hOpen]
  · rintro rfl
    cases hEnds : Text.endsWith '\n' line with
    | false =>
        rw [stripTerminator, hEnds]
        exact .whole hEnds
    | true =>
        rcases List.getLast?_eq_some_iff.1 (eq_of_beq hEnds) with
          ⟨before, hLine⟩
        rw [stripTerminator, hEnds, hLine, if_pos rfl,
          List.dropLast_concat]
        exact .ended before

theorem isBody_nil_iff :
    IsBody line [] ↔ line = [] ∨ line = ['\n'] := by
  constructor
  · intro hBody
    cases hBody with
    | ended => exact Or.inr rfl
    | whole hOpen => exact Or.inl rfl
  · rintro (rfl | rfl)
    · exact .whole rfl
    · exact .ended []

/- A line that does not end with a line feed is its own body. -/
theorem isBody_self_iff :
    IsBody line line ↔ Text.endsWith '\n' line = false := by
  constructor
  · intro hBody
    cases hEnds : Text.endsWith '\n' line with
    | false => rfl
    | true =>
        have hLine := isBody_iff.1 hBody
        rw [stripTerminator, hEnds, if_pos rfl] at hLine
        have hLength := congrArg List.length hLine
        have hNe : line ≠ [] := by
          rintro rfl
          exact absurd hEnds Bool.false_ne_true
        have hPos := List.length_pos_iff.2 hNe
        rw [List.length_dropLast] at hLength
        omega
  · exact .whole

end LineShell

------------------------------------------------------------
-- Writable Commands
------------------------------------------------------------

namespace LineShell

namespace CommandLine

/-
  A command that a line can hold: no word has a space in it,
  and the words are more than one empty word.
-/
structure Writable
    (command : CommandLine) : Prop where
  unspaced : ∀ word ∈ command.words, ' ' ∉ word
  not_blank : command.words ≠ [[]]

variable {command : CommandLine}
variable {line : Text}

theorem Writable.splitOn_render
    (hWritable : command.Writable) :
    command.render.splitOn ' ' = command.words :=
  List.splitOn_intercalate ' ' hWritable.unspaced
    (List.cons_ne_nil command.name command.args)

/- The words of a text are those of the command that it writes. -/
theorem splitWords_eq_words_iff
    (t : Text) :
    splitWords t = command.words ↔
      command.Writable ∧ t = command.render := by
  constructor
  · intro hWords
    have hText : t = command.render := by
      rw [← unwords_splitWords t, hWords]
      rfl
    have hNe : t ≠ [] := by
      intro hNil
      rw [hNil] at hWords
      exact List.cons_ne_nil _ _ hWords.symm
    have hCut : t.splitOn ' ' = command.words := by
      rw [← hWords, splitWords, if_neg]
      rwa [List.isEmpty_iff]
    refine ⟨⟨?_, ?_⟩, hText⟩
    · intro word hWord
      rw [← hCut] at hWord
      exact Text.not_mem_of_mem_splitOn hWord
    · intro hBlank
      rw [render, hBlank, Text.unwords_singleton] at hText
      exact hNe hText
  · rintro ⟨hWritable, rfl⟩
    have hNe : command.render ≠ [] := by
      intro hNil
      have hCut := hWritable.splitOn_render
      rw [hNil, List.splitOn_nil] at hCut
      exact hWritable.not_blank hCut.symm
    rw [splitWords, if_neg, hWritable.splitOn_render]
    rwa [List.isEmpty_iff]

/- A line holds the command that its body writes. -/
theorem parse?_eq_some_iff_isBody :
    parse? line = some command ↔
      command.Writable ∧ IsBody line command.render := by
  rw [parse?_eq_some_iff, splitWords_eq_words_iff, isBody_iff]

/- Without a body, a line holds none. -/
theorem parse?_eq_none_iff_isBody :
    parse? line = none ↔ IsBody line [] := by
  rw [parse?_eq_none_iff, splitWords_eq_nil_iff, isBody_iff]

/- The first word is cut off at the first space of the body. -/
theorem parse?_of_spaced
    {name rest : Text}
    (hName : ' ' ∉ name)
    (hBody : IsBody line (name ++ ' ' :: rest)) :
    parse? line = some ⟨name, rest.splitOn ' '⟩ := by
  have hRest := List.splitOn_ne_nil ' ' rest
  have hRender :
      render ⟨name, rest.splitOn ' '⟩ = name ++ ' ' :: rest := by
    rw [render, words, Text.unwords_cons hRest, Text.unwords,
      List.intercalate_splitOn]
  rw [parse?_eq_some_iff_isBody, hRender]
  refine ⟨⟨?_, ?_⟩, hBody⟩
  · intro word hWord
    rcases List.mem_cons.1 hWord with rfl | hArg
    · exact hName
    · exact Text.not_mem_of_mem_splitOn hArg
  · intro hBlank
    exact hRest (List.cons.inj hBlank).2

end CommandLine

end LineShell

------------------------------------------------------------
-- Reading and Writing
------------------------------------------------------------

namespace LineShell

namespace CommandLine

/-
  Reading and writing are inverse to each other.  Only a line
  without a body holds no command; any other holds the one that
  its body writes, and that is a writable one.  A writable
  command is read from how it is written and a line feed, and
  also without the line feed, unless its last word ends with
  one.  So lines are read alike exactly if their bodies are the
  same.
-/
theorem parse?_inverts_render
    (line : Text) :
    (parse? line = none ↔ line = [] ∨ line = ['\n']) ∧
      (∀ command,
        parse? line = some command ↔
          command.Writable ∧ IsBody line command.render) ∧
      (∀ command,
        parse? (command.render ++ ['\n']) = some command ↔
          command.Writable) ∧
      (∀ command,
        parse? command.render = some command ↔
          command.Writable ∧
            Text.endsWith '\n'
              (command.args.getLastD command.name) = false) ∧
      ∀ other,
        parse? line = parse? other ↔
          ∃ body, IsBody line body ∧ IsBody other body := by
  refine ⟨?_, fun _ => parse?_eq_some_iff_isBody, ?_, ?_, ?_⟩
  · exact parse?_eq_none_iff_isBody.trans isBody_nil_iff
  · intro command
    rw [parse?_eq_some_iff_isBody]
    exact and_iff_left (.ended command.render)
  · intro command
    have hEnds :
        Text.endsWith '\n' command.render =
          Text.endsWith '\n'
            (command.args.getLastD command.name) :=
      Text.endsWith_unwords (by decide) command.name command.args
    rw [parse?_eq_some_iff_isBody, isBody_self_iff, hEnds]
  · intro other
    constructor
    · intro hAlike
      cases hLine : parse? line with
      | none =>
          rw [hLine] at hAlike
          exact ⟨[], parse?_eq_none_iff_isBody.1 hLine,
            parse?_eq_none_iff_isBody.1 hAlike.symm⟩
      | some command =>
          rw [hLine] at hAlike
          exact ⟨command.render,
            (parse?_eq_some_iff_isBody.1 hLine).2,
            (parse?_eq_some_iff_isBody.1 hAlike.symm).2⟩
    · rintro ⟨body, hLine, hOther⟩
      rw [parse?, parse?, isBody_iff.1 hLine,
        isBody_iff.1 hOther]

/- One line feed is taken off the end, and no space is lost. -/
example :
    parse? "echo  a \n\n" =
      some ⟨"echo", [[], ['a'], ['\n']]⟩ := by
  decide

end CommandLine

end LineShell
