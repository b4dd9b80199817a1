import Stencil.Decimal.Binary64
import Stencil.Terminal.Wrap

/-!
# Columns and their widths

* **Columns** (`Column`): a header over cells.
* **Measure** (`Column.measured`): a column takes the cells of its widest line with a blank on each side, and never more
  than are free.
* **Sharing** (`shrink`): what the columns take too much is taken from them in equal shares. The parts are rounded so
  that nothing is left over.
* **Widths** (`columnWidths`): the widest of the columns that may be broken shrink first (`levelled`), and then all of
  them.
-/

namespace Stencil

/-! ## Columns -/

/-- A column of a table. -/
structure Column where
  header : Text
  cells : List Text
  /-- Whether its lines are not broken. -/
  unbroken : Bool
  deriving DecidableEq, Repr

namespace Column

/-- A character that ends a line in the measure of a width. -/
def isLineEnd (c : Point) : Bool :=
  c = '\n' || c = '\x1c' || c = '\x1d' || c = '\x1e' || c = '\u0085' || c = '\u2028' || c = '\u2029'

/-- The cells that the widest line of a text takes, after some cells of the first one. -/
def widest : Nat → Text → Nat
  | run, [] => run
  | run, c :: cs => if isLineEnd c then max run (widest 0 cs) else widest (run + Text.charCells c) cs

/-- The cells that the widest line of a column takes. -/
def content (c : Column) : Nat := ((c.header :: c.cells).map (widest 0)).foldl max 0

/-- The blanks beside the lines of a column. -/
def padding : Nat := 2

/-- The cells that a column takes of those that are free. -/
def measured (free : Nat) (c : Column) : Nat := if free ≤ padding then free else min free (c.content + padding)

end Column

/-! ## Sharing -/

/-- The sum of widths. -/
def totalWidth (widths : List Nat) : Nat := widths.foldr (· + ·) 0

/-- What may be taken from a width. -/
structure Slack where
  width : Nat
  most : Nat
  deriving DecidableEq, Repr

/-- The widths after cells are taken from them in equal shares. -/
def shrink : Nat → List Slack → List Nat
  | _, [] => []
  | excess, s :: rest =>
    if s.most = 0 then s.width :: shrink excess rest
    else
      let shares := (s :: rest).countP fun r => r.most ≠ 0
      let part := min s.most (Binary64.roundDiv excess shares)
      (s.width - part) :: shrink (excess - part) rest

/-- The widths, of which those that may shrink do so from the widest down until they fit. A round takes some cells. -/
def levelled (free : Nat) (mayShrink : List Bool) : Nat → List Nat → List Nat
  | 0, widths => widths
  | rounds + 1, widths =>
    let excess := totalWidth widths - free
    let breakable : List Nat := (widths.zip mayShrink).filterMap fun (width, may) => if may then some width else none
    let widest := breakable.foldl max 0
    let next := (breakable.filter (· ≠ widest)).foldl max 0
    if excess = 0 ∨ widest = next then widths
    else
      let slacks := (widths.zip mayShrink).map fun (width, may) =>
        ⟨width, if may ∧ width = widest then min excess (widest - next) else 0⟩
      levelled free mayShrink rounds (shrink excess slacks)

/-! ## Widths -/

/-- The widths of columns, with the blanks beside their lines, where so many cells are free for them. -/
def columnWidths (free : Nat) (columns : List Column) : List Nat :=
  let widths := columns.map fun c => max 1 (c.measured free)
  if totalWidth widths ≤ free then widths
  else
    let narrow := levelled free (columns.map fun c => !c.unbroken) (totalWidth widths) widths
    let narrow := shrink (totalWidth narrow - free) (narrow.map fun width => ⟨width, width⟩)
    List.zipWith Column.measured narrow columns

end Stencil
