import Stencil.Terminal.Mode
import Stencil.Terminal.Table

/-!
# Pages of help

* **Pages** (`HelpPage`): a command with a summary, lines of usage, and sections of items that are explained.
* **Plain pages** (`HelpPage.plain`): aligned text. A section without items is an error.
* **Rich pages** (`HelpPage.rich`): the summary in a frame (`framed`), the sections as tables.
-/

namespace Stencil

/-- A section of a page: its title, and the items with what is said about them. -/
structure HelpSection where
  title : Text
  items : List (Text × Text)
  deriving DecidableEq, Repr

/-- A page of help. -/
structure HelpPage where
  command : Text
  summary : Text
  usage : List Text
  sections : List HelpSection
  deriving DecidableEq, Repr

/-- Why a page is not written. -/
inductive HelpError where
  /-- A section has no items to align. -/
  | emptySection
  /-- A text has a wrong style tag. -/
  | style (e : StyleError)
  deriving DecidableEq, Repr

/-- The wording of an error. -/
def HelpError.message : HelpError → Text
  | emptySection => "max() arg is an empty sequence".text
  | style e => e.message

/-! ## Plain pages -/

/-- A line of usage. -/
def usageLine (t : Text) : Text := Text.spaces 2 ++ t

/-- The lines of a section, with the items padded to the longest. -/
def HelpSection.plainLines (s : HelpSection) : Except HelpError (List Text) :=
  if s.items.isEmpty then .error .emptySection
  else
    let width := (s.items.map fun (item, _) => item.length).foldl max 0
    .ok ([] :: s.title :: s.items.map fun (item, text) =>
      Text.spaces 2 ++ Text.padRight width item ++ Text.spaces 2 ++ text)

/-- The page as plain text. -/
def HelpPage.plain (p : HelpPage) : Except HelpError Text := do
  let sections ← p.sections.mapM HelpSection.plainLines
  return Text.unlines
    ((p.command ++ Text.spaces 2 ++ p.summary) :: [] :: "Usage".text :: p.usage.map usageLine ++ sections.flatten)

/-! ## Rich pages -/

/-- The top of a frame of a width with a title in its middle, on one line. -/
def frameTop (width : Nat) (title : Text) : Text :=
  let line := title.map fun c => if c = Point.char '\n' then Point.char ' ' else c
  let title := Text.crop (width - 4) (' ' :: (Text.expandTabs 0 line ++ " ".text))
  let free := width - 4 - Text.cells title
  let bar (n : Nat) : Text := List.replicate n '─'
  '╭' :: (bar (free / 2 + 1) ++ title ++ bar (free - free / 2 + 1) ++ "╮".text)

/-- A text in a frame of a width with a title. -/
def framed (width : Nat) (title t : Text) : List Text :=
  let inner := width - 4
  let body := (Text.Fit.lines ⟨inner, .fold, true⟩ t).map fun line =>
    Point.char '│' :: ' ' :: (Text.padCells inner line ++ " │".text)
  frameTop width title :: body ++ [Point.char '╰' :: (List.replicate (width - 2) (Point.char '─') ++ "╯".text)]

/-- The table of a section. -/
def HelpSection.table (s : HelpSection) : Table where
  title := s.title
  headers := ["Item".text, "Description".text]
  rows := s.items.map fun (item, text) => [item, text]
  unbroken := []

/-- What is shown of a text with style tags. -/
def styled (t : Text) : Except HelpError Text := (do (← Text.shown t).styled).mapError .style

/-- The title of the page, which is the command in a style of its own. -/
def HelpPage.title (p : HelpPage) : Except HelpError Text :=
  styled ("[bold blue]".text ++ p.command ++ "[/bold blue]".text)

/-- The page set for lines of a width. -/
def HelpPage.rich (p : HelpPage) (width : Nat) : Except HelpError Text := do
  let frame := framed width (← p.title) (← styled p.summary)
  let usage := p.usage.flatMap fun t =>
    Text.Fit.lines ⟨width, .fold, true⟩ (Text.withoutControls (Text.withEmoji (usageLine t)))
  let tables ← p.sections.mapM fun s => (s.table.lines width).mapError .style
  return Text.unlines (frame ++ "Usage".text :: usage ++ tables.flatten)

/-- The page in a form of output. -/
def HelpPage.text (p : HelpPage) (width : Nat) : OutputMode → Except HelpError Text
  | .plain => p.plain
  | .rich => p.rich width

end Stencil
