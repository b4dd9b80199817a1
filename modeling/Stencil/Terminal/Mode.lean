import Stencil.Text.Basic
import Stencil.Text.Lower
import Stencil.Text.Quoted

/-!
# The form of output

* **Forms** (`OutputMode`): plain text, or text set for a terminal.
* **Choice** (`resolveMode`): a requested choice goes before that of the environment, and what chooses nothing is passed
  over. An automatic choice, or none, depends on whether the output is a terminal.
-/

namespace Stencil

/-- The forms of output. -/
inductive OutputMode where
  | plain
  | rich
  deriving DecidableEq, Repr

/-- The name of a form. -/
def OutputMode.name : OutputMode → Text
  | plain => "plain".text
  | rich => "rich".text

/-- What may be chosen. -/
inductive ModeChoice where
  | auto
  | mode (m : OutputMode)
  deriving DecidableEq, Repr

namespace ModeChoice

/-- The name of a choice. -/
def name : ModeChoice → Text
  | auto => "auto".text
  | mode m => m.name

/-- All choices, in the order in which messages list them. -/
def all : List ModeChoice := [auto, mode .plain, mode .rich]

/-- The choice of a name. -/
def ofName? (t : Text) : Option ModeChoice := all.find? (·.name == t)

end ModeChoice

/-- Where a choice comes from. -/
inductive ChoiceSource where
  | request
  | environment
  deriving DecidableEq, Repr

/-- The name of the variable of the environment that chooses. -/
def modeVariable : Text := "DOCSYNC_OUTPUT".text

/-- The option that requests a choice. -/
def modeOption : Text := "--output".text

/-- How a message names a source. -/
def ChoiceSource.label : ChoiceSource → Text
  | request => modeOption
  | environment => modeVariable

/-- A choice that there is not. -/
structure ModeError where
  source : ChoiceSource
  given : Text
  deriving DecidableEq, Repr

/-- The wording of an error. -/
def ModeError.message (e : ModeError) : Text :=
  "invalid ".text ++ e.source.label ++ " value ".text ++ Text.quoted e.given ++ "; expected one of: ".text
    ++ Text.join ", ".text (ModeChoice.all.map ModeChoice.name)

/-- The choice that a source makes, if it makes one. Blanks and capital letters do not matter. -/
def choiceOf (source : ChoiceSource) (given : Option Text) : Except ModeError (Option ModeChoice) :=
  let raw := given.getD []
  let name := Text.lower (Text.strip raw)
  if name.isEmpty then .ok none
  else match ModeChoice.ofName? name with
    | some choice => .ok (some choice)
    | none => .error ⟨source, raw⟩

/-- The form of a choice. -/
def ModeChoice.resolve (terminal : Bool) : ModeChoice → OutputMode
  | auto => if terminal then .rich else .plain
  | mode m => m

/-- The form of output. The environment is read only where nothing is requested. -/
def resolveMode (requested environment : Option Text) (terminal : Bool) : Except ModeError OutputMode := do
  match ← choiceOf .request requested with
  | some choice => return choice.resolve terminal
  | none => return ((← choiceOf .environment environment).getD .auto).resolve terminal

end Stencil
