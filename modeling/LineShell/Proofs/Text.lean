import LineShell.Text.Basic

/-
  Where a text ends, and how the words of a text are cut and
  joined.

  Main declarations:
    * `Text.endsWith_append`
    * `Text.endsWith_cons`
    * `Text.not_mem_of_mem_splitOn`
    * `Text.unwords_cons`
    * `Text.endsWith_unwords`
    * `Text.flatMap_spaced`
-/

------------------------------------------------------------
-- Ends of Texts
------------------------------------------------------------

namespace LineShell

namespace Text

variable {c : Char}

/- The end of a text is that of its last part, if it has one. -/
theorem endsWith_append
    {first second : Text}
    (hSecond : second ≠ []) :
    endsWith c (first ++ second) = endsWith c second := by
  unfold endsWith
  rw [List.getLast?_append, List.getLast?_eq_some_getLast hSecond,
    Option.some_or]

/- One more character in front does not change the end. -/
theorem endsWith_cons
    {t : Text}
    (hText : t ≠ [])
    (d : Char) :
    endsWith c (d :: t) = endsWith c t := by
  rw [← List.singleton_append, endsWith_append hText]

theorem endsWith_singleton
    (c : Char) :
    endsWith c [c] = true :=
  beq_self_eq_true (some c)

/- A text ends with a character that was put at its end. -/
theorem endsWith_concat
    (t : Text)
    (c : Char) :
    endsWith c (t ++ [c]) = true := by
  rw [endsWith_append (List.cons_ne_nil c [])]
  exact endsWith_singleton c

end Text

end LineShell

------------------------------------------------------------
-- Cutting and Joining
------------------------------------------------------------

namespace LineShell

namespace Text

variable {c : Char}

/- No piece of a text that is cut at a character holds it. -/
theorem not_mem_of_mem_splitOn
    {t piece : Text}
    (hPiece : piece ∈ t.splitOn c) :
    c ∉ piece := by
  induction t generalizing piece with
  | nil =>
      rw [List.splitOn_nil, List.mem_singleton] at hPiece
      rw [hPiece]
      exact List.not_mem_nil
  | cons d t ih =>
      rw [List.splitOn_cons_eq_if_modifyHead] at hPiece
      split at hPiece
      · rcases List.mem_cons.1 hPiece with rfl | hLater
        · exact List.not_mem_nil
        · exact ih hLater
      · next hNe =>
          cases hPieces : t.splitOn c with
          | nil => exact absurd hPieces (List.splitOn_ne_nil c t)
          | cons head rest =>
              rw [hPieces] at hPiece ih
              rcases List.mem_cons.1 hPiece with rfl | hLater
              · intro hMem
                rcases List.mem_cons.1 hMem with rfl | hHead
                · exact hNe (beq_self_eq_true c)
                · exact ih List.mem_cons_self hHead
              · exact ih (List.mem_cons_of_mem head hLater)

@[simp] theorem unwords_singleton
    (word : Text) :
    unwords [word] = word :=
  List.intercalate_singleton

/- One space stands between the first word and the others. -/
theorem unwords_cons
    {words : List Text}
    (hWords : words ≠ [])
    (word : Text) :
    unwords (word :: words) = word ++ ' ' :: unwords words := by
  unfold unwords
  rw [List.intercalate_cons_of_ne_nil hWords,
    List.append_assoc, List.singleton_append]

/- Words are joined to a text that ends as the last one does. -/
theorem endsWith_unwords
    (hSpace : c ≠ ' ')
    (word : Text)
    (words : List Text) :
    endsWith c (unwords (word :: words)) =
      endsWith c (words.getLastD word) := by
  induction words generalizing word with
  | nil =>
      rw [unwords_singleton]
      rfl
  | cons next words ih =>
      rw [unwords_cons (List.cons_ne_nil next words),
        List.getLastD_cons, ← ih next,
        endsWith_append (List.cons_ne_nil ' ' _)]
      -- The last word may be empty, and then a space ends the text.
      cases unwords (next :: words) with
      | nil => simp [endsWith, Ne.symm hSpace]
      | cons d t => simp [endsWith]

/- A space after every word is one after the joined words. -/
theorem flatMap_spaced
    {words : List Text}
    (hWords : words ≠ []) :
    (words.flatMap fun word => word ++ [' ']) =
      unwords words ++ [' '] := by
  induction words with
  | nil => exact absurd rfl hWords
  | cons word words ih =>
      by_cases hRest : words = []
      · simp [hRest]
      · rw [List.flatMap_cons, ih hRest, unwords_cons hRest]
        simp

end Text

end LineShell
