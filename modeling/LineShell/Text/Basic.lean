/-
  Texts, and the small operations on them that the rest of
  the library is written in.

  A text is a list of Unicode characters.  Cutting and
  joining at a separator are `List.splitOn` and
  `List.intercalate`.

  Main declarations:
    * `Text`
    * `nul`
    * `Text.dropAll`
    * `Text.beginsWith`
    * `Text.endsWith`
    * `Text.unwords`
-/

------------------------------------------------------------
-- Texts
------------------------------------------------------------

namespace LineShell

/- A text is a list of characters. -/
abbrev Text :=
  List Char

/- A written-out string is read as the text it spells. -/
instance : Coe String Text :=
  ⟨String.toList⟩

/- The character that ends texts at the system interface. -/
def nul : Char :=
  Char.ofNat 0

namespace Text

/- The text without the copies of `c` that it begins with. -/
def dropAll
    (c : Char)
    (t : Text) : Text :=
  t.dropWhile (· == c)

/- Whether the text begins with the character. -/
def beginsWith
    (c : Char)
    (t : Text) : Bool :=
  t.head? == some c

/- Whether the text ends with the character. -/
def endsWith
    (c : Char)
    (t : Text) : Bool :=
  t.getLast? == some c

/- Words with one space between neighbours. -/
def unwords
    (words : List Text) : Text :=
  [' '].intercalate words

/- Items with a comma and a space between neighbours. -/
def commaSeparated
    (items : List Text) : Text :=
  [',', ' '].intercalate items

end Text

end LineShell

------------------------------------------------------------
-- Dropping Leading Characters
------------------------------------------------------------

namespace LineShell

namespace Text

/- What is left does not begin with the dropped character. -/
theorem beginsWith_dropAll
    (c : Char)
    (t : Text) :
    beginsWith c (dropAll c t) = false := by
  induction t with
  | nil => rfl
  | cons d t ih =>
      by_cases hEq : d = c
      · simpa [dropAll, hEq] using ih
      · simp [dropAll, beginsWith, hEq]

/- Copies put in front of a text are dropped again. -/
theorem dropAll_replicate_append
    (c : Char)
    (n : Nat)
    (t : Text) :
    dropAll c (List.replicate n c ++ t) = dropAll c t := by
  induction n with
  | zero => rfl
  | succ n ih =>
      simp_all [dropAll, List.replicate_succ]

/- A text that does not begin with the character is kept. -/
theorem dropAll_of_not_beginsWith
    {c : Char}
    {t : Text}
    (hBegins : beginsWith c t = false) :
    dropAll c t = t := by
  cases t with
  | nil => rfl
  | cons d t =>
      have hNe : d ≠ c := by
        simpa [beginsWith] using hBegins
      simp [dropAll, hNe]

end Text

end LineShell
