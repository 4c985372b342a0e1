import LineShell.Text.Basic

/-
  Laying out words in lines of limited width.

  A line takes as many words as fit.  A word can also be cut
  after a hyphen that stands between letters; a piece that is
  wider than a line is spread over several.

  Main declarations:
    * `Text.cutHyphens`
    * `Text.wrap`
    * `Text.packed`
-/

------------------------------------------------------------
-- Pieces of Words
------------------------------------------------------------

namespace LineShell

namespace Text

/-
  The pieces that a word can be cut into.  `before` is the
  piece so far, last character first.
-/
def cutHyphens
    (before : Text) : Text → List Text
  | [] => [before.reverse]
  | '-' :: next :: rest =>
      let isInner :=
        (before.take 2).all Char.isAlpha &&
          before.length ≥ 2 && next.isAlpha
      if isInner then
        ('-' :: before).reverse :: cutHyphens [] (next :: rest)
      else
        cutHyphens ('-' :: before) (next :: rest)
  | c :: rest => cutHyphens (c :: before) rest

/-
  The pieces of a text.  Each comes with the space before it,
  which is dropped at the start of a line.
-/
def pieces
    (t : Text) : List (Text × Text) :=
  (t.splitOn ' ').flatMap fun word =>
    match cutHyphens [] word with
    | [] => []
    | first :: rest => ([' '], first) :: rest.map (([], ·))

end Text

end LineShell

------------------------------------------------------------
-- Lines
------------------------------------------------------------

namespace LineShell

namespace Text

/-
  A text cut into parts of a width, the last one no wider.  The
  first argument bounds the number of cuts.
-/
def cutEvery
    (width : Nat) : Nat → Text → List Text
  | 0, t => [t]
  | fuel + 1, t =>
      if t.length ≤ width then
        [t]
      else
        t.take width :: cutEvery width fuel (t.drop width)

/-
  Put a piece that is wider than a line behind a line begun so
  far: the lines that it fills, and the line that is left.
-/
def spread
    (width : Nat)
    (line piece : Text) : List Text × Text :=
  let room := width - line.length
  let parts :=
    cutEvery width piece.length (piece.drop room)
  ((line ++ piece.take room) :: parts.dropLast,
    parts.getLast?.getD [])

/- Fill lines with pieces, after a line begun so far. -/
def fill
    (width : Nat)
    (line : Text) : List (Text × Text) → List Text
  | [] => if line.isEmpty then [] else [line]
  | (space, piece) :: rest =>
      let begun := if line.isEmpty then [] else line ++ space
      if begun.length + piece.length ≤ width then
        fill width (begun ++ piece) rest
      else if piece.length ≤ width then
        line :: fill width piece rest
      else if begun.length ≤ width then
        let (filled, left) := spread width begun piece
        filled ++ fill width left rest
      else
        let (filled, left) := spread width [] piece
        line :: (filled ++ fill width left rest)

/- A text laid out in lines. -/
def wrap
    (width : Nat)
    (t : Text) : List Text :=
  fill width [] (pieces t)

/-
  Parts laid out in lines, an indented part never cut.  The
  first line begins with `start` in place of the indent.
-/
def packed
    (width : Nat)
    (indent start : Text)
    (line : List Text) : List Text → List Text
  | [] =>
      if line.isEmpty then [] else [start ++ unwords line]
  | part :: rest =>
      let length :=
        start.length + (unwords line).length + part.length
      if line.isEmpty then
        packed width indent start [part] rest
      else if length + 1 ≤ width then
        packed width indent start (line ++ [part]) rest
      else
        (start ++ unwords line) ::
          packed width indent indent [part] rest

/- So many spaces. -/
def spaces
    (n : Nat) : Text :=
  List.replicate n ' '

/- A text filled up with spaces to a width. -/
def padRight
    (width : Nat)
    (t : Text) : Text :=
  t ++ spaces (width - t.length)

/- Lines as one text, each with its line feed. -/
def unlines
    (lines : List Text) : Text :=
  lines.flatMap (· ++ ['\n'])

end Text

end LineShell
