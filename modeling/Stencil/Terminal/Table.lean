import Stencil.Terminal.Styled
import Stencil.Terminal.Widths

/-!
# Tables

* **Tables** (`Table`): a row of headers over rows of cells, all of them texts with style tags, and perhaps a title.
* **Columns** (`Table.columns`): as many as the longest row has cells. Cells that are not there are empty.
* **Drawing** (`Drawing.lines`): heavy lines around the headers and light ones around the rows, one blank on each side
  of a cell. Headers stand at the bottom of their row, other cells at the top.
* **Lines** (`Table.lines`): the title over the drawing, cut to the cells of a line.
-/

namespace Stencil

/-- A table. -/
structure Table where
  title : Text
  headers : List Text
  rows : List (List Text)
  /-- The numbers of the columns whose lines are not broken. It says nothing of a column without a header. -/
  unbroken : List Nat

namespace Table

/-! ## Columns -/

/-- The number of columns. -/
def columnCount (t : Table) : Nat := ((t.headers :: t.rows).map List.length).foldl max 0

/-- The column of a number as it is shown, and its first fault of a style. -/
def column (t : Table) (index : Nat) : Except StyleError (Column × Option NumeralFault) := do
  let header ← Text.shown ((t.headers[index]?).getD [])
  let cells ← t.rows.mapM fun row => Text.shown ((row[index]?).getD [])
  let column := ⟨header.text, cells.map (·.text), decide (index ∈ t.unbroken ∧ index < t.headers.length)⟩
  return (column, (header :: cells).findSome? (·.fault))

/-- The columns as they are shown. -/
def columns (t : Table) : Except StyleError (List (Column × Option NumeralFault)) :=
  (List.range t.columnCount).mapM t.column

end Table

/-! ## Lines between rows -/

/-- The characters of a line between rows: at its left end, along it, between columns, and at its right end. -/
structure Rule where
  left : Point
  along : Point
  between : Point
  right : Point
  deriving DecidableEq, Repr

namespace Rule

/-- The line over the headers. -/
def top : Rule := ⟨'┏', '━', '┳', '┓'⟩

/-- The line under the headers. -/
def head : Rule := ⟨'┡', '━', '╇', '┩'⟩

/-- The line under the rows. -/
def bottom : Rule := ⟨'└', '─', '┴', '┘'⟩

/-- A line between rows, over columns of some widths. -/
def line (r : Rule) (widths : List Nat) : Text :=
  r.left :: (Text.join [r.between] (widths.map fun width => List.replicate width r.along) ++ [r.right])

end Rule

/-! ## Rows -/

/-- Columns, with the widths that they are drawn in. -/
structure Drawing where
  columns : List Column
  widths : List Nat
  deriving DecidableEq, Repr

/-- Lines with blank ones over them. -/
def atBottom (height width : Nat) (lines : List Text) : List Text :=
  List.replicate (height - lines.length) (Text.spaces width) ++ lines

/-- Lines with blank ones under them. -/
def atTop (height width : Nat) (lines : List Text) : List Text :=
  lines ++ List.replicate (height - lines.length) (Text.spaces width)

/-- The lines of a cell in a column of a width, with a blank on each side. Between the blanks there has to be room. -/
def Column.cellLines (c : Column) (width : Nat) (t : Text) : List Text :=
  let inner := width - Column.padding
  if inner = 0 then []
  else (Text.Fit.lines ⟨inner, .ellipsis, !c.unbroken⟩ t).map fun line => ' ' :: (Text.padCells inner line ++ " ".text)

namespace Drawing

/-- The cells that a drawing takes. -/
def fullWidth (d : Drawing) : Nat := totalWidth d.widths + d.widths.length + 1

/-- The lines of a row, given how lines are placed, the character beside cells, and the cell of each column. -/
def rowLines (d : Drawing) (place : Nat → Nat → List Text → List Text) (bar : Point) (cell : Column → Text) :
    List Text :=
  let cells := (d.columns.zip d.widths).map fun (c, width) => (width, c.cellLines width (cell c))
  let height := (cells.map fun (_, lines) => lines.length).foldl max 1
  let placed := cells.map fun (width, lines) => place height width lines
  (List.range height).map fun index =>
    bar :: (Text.join [bar] (placed.map fun lines => (lines[index]?).getD []) ++ [bar])

/-- The lines of the drawing of so many rows. -/
def lines (d : Drawing) (rows : Nat) : List Text :=
  Rule.top.line d.widths :: d.rowLines atBottom '┃' Column.header ++ Rule.head.line d.widths ::
    (List.range rows).flatMap (fun index => d.rowLines atTop '│' fun c => (c.cells[index]?).getD [])
    ++ [Rule.bottom.line d.widths]

end Drawing

/-! ## Tables -/

namespace Table

/-- The lines of the title. -/
def titleLines (t : Table) (width : Nat) : Except StyleError (List Text) :=
  if t.title.isEmpty then return []
  else do
    let title ← (← Text.shown t.title).styled
    return (Text.Fit.lines ⟨width, .fold, true⟩ title).map (Text.centred width)

/-- The lines of the table on lines of so many cells. Without columns there is an empty one. -/
def lines (available : Nat) (t : Table) : Except StyleError (List Text) := do
  let columns ← t.columns
  if columns.isEmpty then return [[]]
  let drawn := columns.map (·.1)
  let drawing : Drawing := ⟨drawn, columnWidths (available - (drawn.length + 1)) drawn⟩
  let title ← t.titleLines drawing.fullWidth
  if let some fault := columns.findSome? (·.2) then throw (.numeral fault)
  return (title ++ drawing.lines t.rows.length).map (Text.crop available)

/-- The text of the table on lines of so many cells. -/
def text (available : Nat) (t : Table) : Except StyleError Text := do return Text.unlines (← t.lines available)

end Table

end Stencil
