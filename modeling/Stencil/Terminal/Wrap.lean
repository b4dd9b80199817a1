import Stencil.Text.Basic
import Stencil.Text.CellWidth

/-!
# Fitting text to a width

* **Words** (`words`): the text cut before each word that follows a blank. A word keeps the blanks after it, and the
  first one also those before it.
* **Breaking** (`breakLine`): a line is broken before a word that does not fit. A word wider than a line is cut to
  pieces or left to be cut off (`Overflow`).
* **Fitting** (`Fit.lines`): the lines of a text with tabs expanded, broken, and cut to the width.
-/

namespace Stencil.Text

/-! ## Words -/

/-- The words of a text after the characters of an open word, which come in reverse. -/
def wordsFrom : Text → Text → List Text
  | acc, [] => if acc.isEmpty then [] else [acc.reverse]
  | acc, c :: cs =>
    if !isBlank c && acc.head?.any isBlank && acc.any (!isBlank ·) then acc.reverse :: wordsFrom [c] cs
    else wordsFrom (c :: acc) cs

/-- The words of a text with the blanks around them. -/
def words (t : Text) : List Text := wordsFrom [] t

/-! ## Pieces of a word -/

/-- The pieces of a word that fill lines of a width, the first of which has some cells in use. -/
def chop (width : Nat) : Nat → Text → List Text
  | _, [] => [[]]
  | used, c :: cs =>
    let size := charCells c
    let starts := width < used + size
    match chop width (if starts then size else used + size) cs with
    | [] => [[c]]
    | piece :: pieces => if starts then [] :: (c :: piece) :: pieces else (c :: piece) :: pieces

/-! ## Breaking lines -/

/-- What becomes of a word that is wider than a line. -/
inductive Overflow where
  /-- It goes on in the next line. -/
  | fold
  /-- It is cut off, with a sign. -/
  | ellipsis
  deriving DecidableEq, Repr

/-- The lines that words make, after an open line with some cells in use. -/
def breakWords (width : Nat) (overflow : Overflow) : Text → Nat → List Text → List Text
  | line, _, [] => [line]
  | line, used, w :: ws =>
    let size := cells (stripRight w)
    if used + size ≤ width then breakWords width overflow (line ++ w) (used + cells w) ws
    else
      let before := if line.isEmpty then [] else [line]
      if width < size ∧ overflow = .fold then
        let pieces := chop width 0 w
        let last := pieces.getLast?.getD []
        before ++ pieces.dropLast ++ breakWords width overflow last (cells last) ws
      else before ++ breakWords width overflow w (cells w) ws

/-- The lines that one line makes. -/
def breakLine (width : Nat) (overflow : Overflow) (t : Text) : List Text := breakWords width overflow [] 0 (words t)

/-! ## Tabs and ends of lines -/

/-- The cells between the stops of tabs. -/
def tabWidth : Nat := 8

/-- The text with spaces for tabs, after so many cells. -/
def expandTabs : Nat → Text → Text
  | _, [] => []
  | column, c :: cs =>
    if c = '\t' then
      let gap := tabWidth - column % tabWidth
      spaces gap ++ expandTabs (column + gap) cs
    else c :: expandTabs (column + charCells c) cs

/-- The text without blanks at its end as long as it has more characters than the width. -/
def trimTo (width : Nat) (t : Text) : Text :=
  let blanks := t.length - (stripRight t).length
  t.take (t.length - min blanks (t.length - width))

/-- The first characters of a text, to fill a number of cells. -/
def crop : Nat → Text → Text
  | _, [] => []
  | total, c :: cs =>
    if charCells c ≤ total then c :: crop (total - charCells c) cs
    else List.replicate total ' '

/-- The text with spaces after it up to a number of cells. -/
def padCells (width : Nat) (t : Text) : Text := t ++ spaces (width - cells t)

/-- The text without blanks at its end in the middle of a number of cells, the odd one on the right. -/
def centred (width : Nat) (t : Text) : Text :=
  let t := stripRight t
  padCells width (spaces ((width - cells t) / 2) ++ t)

/-! ## Fitting -/

/-- How lines are fitted. -/
structure Fit where
  width : Nat
  overflow : Overflow
  /-- Whether lines are broken. -/
  wraps : Bool
  deriving DecidableEq, Repr

namespace Fit

/-- A line cut to the width. -/
def cut (f : Fit) (t : Text) : Text :=
  if cells t ≤ f.width then t
  else match f.overflow with
    | .fold => crop f.width t
    | .ellipsis => crop (f.width - 1) t ++ "…".text

/-- The lines that one line makes. -/
def line (f : Fit) (t : Text) : List Text :=
  let t := expandTabs 0 t
  (if f.wraps then breakLine f.width f.overflow t else [t]).map fun l => f.cut (trimTo f.width l)

/-- The lines that a text makes. -/
def lines (f : Fit) (t : Text) : List Text := (Text.lines t).flatMap f.line

end Fit

end Stencil.Text
