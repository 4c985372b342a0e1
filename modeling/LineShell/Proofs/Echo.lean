import LineShell.LexicalTree
import LineShell.Proofs.Footprint
import LineShell.Proofs.Resolution

/-
  What `echo` writes is its line, character for character.

  The line is cut into words, and every word is written with a
  space after it, so the spaces of the line come back, and one
  more at the end.

  Main declarations:
    * `Builtin.echoed_out`
    * `Outcome.OnlySays`
    * `Shell.execute_of_echo`
    * `Shell.execute_echoes_verbatim`
-/

------------------------------------------------------------
-- Echoed Words
------------------------------------------------------------

namespace LineShell

namespace Builtin

/- A space comes after every word, and then a line feed. -/
theorem echoed_out
    (words : List Text) :
    (echoed words).written .out =
      (words.flatMap fun word => word ++ [' ']) ++ ['\n'] := by
  induction words with
  | nil => rfl
  | cons word words ih =>
      rw [List.flatMap_cons, List.append_assoc, ← ih]
      rfl

theorem echoed_err
    (words : List Text) :
    (echoed words).written .err = [] := by
  induction words with
  | nil => rfl
  | cons word words ih => exact ih

end Builtin

end LineShell

------------------------------------------------------------
-- Lines of Echo
------------------------------------------------------------

namespace LineShell

variable {φ δ : Type}

/-
  The run says the text with status 0 and does nothing else: it
  asks for no child and no file, and only the status is left.
-/
structure Outcome.OnlySays
    (done : Outcome (World φ δ) Int)
    (w : World φ δ)
    (text : Text) : Prop
    extends done.Says text 0 where
  requests : done.trace.requests = []
  probes : done.trace.probes = []
  state : done.state = { w with lastStatus := 0 }

namespace Shell

variable {M : Machine φ δ}
variable {w : World φ δ}
variable {line : Text}
variable {args : List Text}

/- A line of `echo` says its arguments. -/
theorem execute_of_echo
    (hEcho : w.builtins.builtin? "echo" = some .echo)
    (hOut : w.streams.Takes .out .write)
    (hFlushes : w.streams.Flushes)
    (hParse : CommandLine.parse? line = some ⟨"echo", args⟩) :
    (execute M line w).OnlySays w
      ((args.flatMap fun word => word ++ [' ']) ++ ['\n']) := by
  have hRequests : (execute M line w).trace.requests = [] :=
    execute_requests_of_builtin M hParse hEcho
  have hProbes : (execute M line w).trace.probes = [] :=
    execute_probes_of_builtin M hParse hEcho
      fun hEq => by cases hEq
  rw [execute_of_builtin_ok hParse hEcho
    (Builtin.echoWords_apply hOut args) hFlushes] at hRequests hProbes ⊢
  refine ⟨⟨rfl, ?_, ?_⟩, hRequests, hProbes, rfl⟩
  · rw [Trace.written_append, Trace.written_append,
      Builtin.echoed_out]
    exact List.append_nil _
  · rw [Trace.written_append, Trace.written_append,
      Builtin.echoed_err]
    rfl

/- A line that goes on after the name and a space is repeated. -/
theorem execute_of_echo_spaced
    {text : Text}
    (hEcho : w.builtins.builtin? "echo" = some .echo)
    (hOut : w.streams.Takes .out .write)
    (hFlushes : w.streams.Flushes)
    (hBody : IsBody line ("echo " ++ text)) :
    (execute M line w).OnlySays w (text ++ " \n") := by
  have hParse :
      CommandLine.parse? line =
        some ⟨"echo", text.splitOn ' '⟩ :=
    CommandLine.parse?_of_spaced (by decide) hBody
  have hSays := execute_of_echo (M := M) hEcho hOut hFlushes hParse
  rw [Text.flatMap_spaced (List.splitOn_ne_nil ' ' text),
    Text.unwords, List.intercalate_splitOn,
    List.append_assoc] at hSays
  exact hSays

end Shell

end LineShell

------------------------------------------------------------
-- Word for Word
------------------------------------------------------------

namespace LineShell

namespace Shell

variable {φ δ : Type}

/-
  `echo` repeats its line.  Whatever comes after the name and a
  space is written as it is, with its spaces, and one space and
  a line feed after it; a line feed that ends the line is not
  part of it.  Without anything after the name, a line feed is
  written.
-/
theorem execute_echoes_verbatim
    (M : Machine φ δ)
    (w : World φ δ)
    (hEcho : w.builtins.builtin? "echo" = some .echo)
    (hOut : w.streams.Takes .out .write)
    (hFlushes : w.streams.Flushes) :
    (∀ text : Text,
      (execute M ("echo " ++ text ++ "\n") w).OnlySays w
        (text ++ " \n")) ∧
      (∀ text : Text,
        Text.endsWith '\n' text = false →
        (execute M ("echo " ++ text) w).OnlySays w
          (text ++ " \n")) ∧
      (execute M "echo" w).OnlySays w "\n" ∧
      (execute M "echo\n" w).OnlySays w "\n" := by
  have hBare : CommandLine.parse? "echo" = some ⟨"echo", []⟩ := by
    decide
  have hEnded :
      CommandLine.parse? "echo\n" = some ⟨"echo", []⟩ := by
    decide
  refine ⟨?_, ?_, ?_, ?_⟩
  · intro text
    exact execute_of_echo_spaced hEcho hOut hFlushes (.ended _)
  · intro text hText
    have hOpen : Text.endsWith '\n' ("echo " ++ text) = false := by
      by_cases hNil : text = []
      · rw [hNil]
        decide
      · rw [Text.endsWith_append hNil]
        exact hText
    exact execute_of_echo_spaced hEcho hOut hFlushes (.whole hOpen)
  · exact execute_of_echo hEcho hOut hFlushes hBare
  · exact execute_of_echo hEcho hOut hFlushes hEnded

/-
  Spaces before, between and after words, a tab, and a line
  feed within the line come back, while standard error fails.
-/
theorem execute_echoes_verbatim_spaces :
    let w : World LexicalTree (Except Fault Int) :=
      { environment := []
        files := {}
        device := .ok 0
        streams := ({} : Streams).answering .err .write
          fun _ => some Errno.noSpace.fault
        lastStatus := 7 }
    let line : Text := "echo  a\t\n  b "
    w.builtins.builtin? "echo" = some .echo ∧
      w.streams.Takes .out .write ∧
      w.streams.Flushes ∧
      Text.endsWith '\n' " a\t\n  b " = false ∧
      (execute LexicalTree.machine line w).OnlySays w
        " a\t\n  b  \n" ∧
      (execute LexicalTree.machine (line ++ "\n") w).OnlySays w
        " a\t\n  b  \n" := by
  intro w line
  have hEcho : w.builtins.builtin? "echo" = some .echo := rfl
  have hOut : w.streams.Takes .out .write := fun _ => rfl
  have hFlushes : w.streams.Flushes :=
    Streams.Flushes.answering_write fun _ _ => rfl
  have hOpen : Text.endsWith '\n' " a\t\n  b " = false := by
    decide
  rcases execute_echoes_verbatim LexicalTree.machine w hEcho
      hOut hFlushes with
    ⟨hEnded, hWhole, -, -⟩
  exact ⟨hEcho, hOut, hFlushes, hOpen,
    hWhole " a\t\n  b " hOpen, hEnded " a\t\n  b "⟩

end Shell

end LineShell
