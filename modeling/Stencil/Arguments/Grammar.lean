import Stencil.Text.Basic

/-!
# The grammar of a command line

* **Options** (`OptionDecl`): an option has names, short or long, and does one of three things (`OptionKind`).
* **Grammars** (`ArgumentGrammar`): the options and the operands of a program, each operand given once.
* **Texts** (`ArgumentGrammar.usage`, `ArgumentGrammar.help`): one line that shows how the program is called, and the
  page that explains the options.
-/

namespace Stencil

/-- What an option does. -/
inductive OptionKind where
  /-- It asks for the help page. -/
  | help
  /-- It is given or not. -/
  | flag
  /-- It takes a value, shown by a word. -/
  | value (word : Text)
  /-- It takes one of some values. -/
  | choice (values : List Text)
  deriving DecidableEq, Repr

/-- The declaration of an option. -/
structure OptionDecl where
  names : List Text
  kind : OptionKind
  help : Text
  deriving DecidableEq, Repr

namespace OptionDecl

/-- Whether the option takes a value. -/
def takesValue (o : OptionDecl) : Bool :=
  match o.kind with
  | .value _ | .choice _ => true
  | .help | .flag => false

/-- The word that shows the value of an option that takes one. -/
def valueWord? (o : OptionDecl) : Option Text :=
  match o.kind with
  | .value word => some word
  | .choice values => some ('{' :: (Text.join [','] values ++ "\x7d".text))
  | .help | .flag => none

/-- An option with its value, by one of its names. -/
def shownAs (o : OptionDecl) (name : Text) : Text :=
  match o.valueWord? with
  | some word => name ++ " ".text ++ word
  | none => name

/-- How a message names the option. -/
def label (o : OptionDecl) : Text := Text.join ['/'] o.names

/-- The last name, which stands for the option. -/
def key (o : OptionDecl) : Text := o.names.getLast?.getD []

end OptionDecl

/-- What the arguments of a program may be. -/
structure ArgumentGrammar where
  program : Text
  options : List OptionDecl
  operands : List Text
  deriving DecidableEq, Repr

namespace ArgumentGrammar

/-- The names of all options, in order. -/
def names (g : ArgumentGrammar) : List (Text × OptionDecl) :=
  g.options.flatMap fun o => o.names.map fun name => (name, o)

/-- The option of a name. -/
def option? (g : ArgumentGrammar) (name : Text) : Option OptionDecl := g.names.lookup name

/-! ## Texts -/

/-- How the program is called. -/
def usage (g : ArgumentGrammar) : Text :=
  let options := g.options.map fun o => Point.char '[' :: (o.shownAs (o.names.head?.getD []) ++ "]".text)
  "usage: ".text ++ Text.join [' '] (g.program :: options ++ g.operands) ++ "\n".text

/-- The most cells before what is said about an option. -/
def helpColumnLimit : Nat := 24

/-- An option with its names and its value. -/
def heading (o : OptionDecl) : Text := Text.join ", ".text (o.names.map o.shownAs)

/-- The cells before what is said about an option. -/
def helpColumn (g : ArgumentGrammar) : Nat :=
  min helpColumnLimit ((((g.options.map heading) ++ g.operands).map List.length).foldl max 0 + 4)

/-- The lines of an option in the help page. -/
def optionLines (column : Nat) (o : OptionDecl) : List Text :=
  let name := heading o
  if o.help.isEmpty then [Text.spaces 2 ++ name]
  else if name.length + 4 ≤ column then [Text.spaces 2 ++ Text.padRight (column - 2) name ++ o.help]
  else [Text.spaces 2 ++ name, Text.spaces column ++ o.help]

/-- The help page. -/
def help (g : ArgumentGrammar) : Text :=
  let operands :=
    if g.operands.isEmpty then []
    else [] :: "positional arguments:".text :: g.operands.map (Text.spaces 2 ++ ·)
  let options := [] :: "options:".text :: g.options.flatMap (optionLines g.helpColumn)
  g.usage ++ Text.unlines (operands ++ options)

end ArgumentGrammar

end Stencil
