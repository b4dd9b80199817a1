import Stencil.Arguments.Reading
import Stencil.Files.Path
import Stencil.Terminal.Help

/-!
# The commands

* **Commands** (`Command`): list the templates, describe one, or render one.
* **Calls** (`Call`): a command with the options that all commands have. `CommandName.call` makes one of what was found
  among the arguments.
* **Help** (`helpPage`): the page about all commands.
-/

namespace Stencil

/-- The name of the program. -/
def programName : Text := "docsync".text

/-- The program with its version. -/
def programVersion : Text := programName ++ " 0.1.0".text

/-! ## Names -/

/-- The names of the commands. -/
inductive CommandName where
  | list
  | describe
  | render
  deriving DecidableEq, Repr

namespace CommandName

/-- The word for a command. -/
def word : CommandName → Text
  | list => "list".text
  | describe => "show".text
  | render => "render".text

/-- All commands. -/
def all : List CommandName := [list, describe, render]

/-- The command of a word. -/
def ofWord? (t : Text) : Option CommandName := all.find? (·.word == t)

end CommandName

/-! ## Options -/

namespace Options

/-- Asks for help. -/
def help : OptionDecl := ⟨["-h".text, "--help".text], .help, "show this help message and exit".text⟩

/-- Chooses the form of output. -/
def output : OptionDecl where
  names := [modeOption]
  kind := .choice (ModeChoice.all.map ModeChoice.name)
  help := "auto (default), plain or rich; $".text ++ modeVariable ++ " applies when omitted".text

/-- Shows all notices. -/
def verbose : OptionDecl := ⟨["-v".text, "--verbose".text], .flag, []⟩

/-- Names a file of variables. -/
def vars : OptionDecl := ⟨["--vars".text], .value "VARS".text, "JSON or YAML variables file".text⟩

/-- Renders with a fallback. -/
def fallback : OptionDecl := ⟨["--fallback".text], .flag, "Never fail; emit default content".text⟩

/-- Names a file of variables for the second try. -/
def fallbackVariables : OptionDecl := ⟨["--fallback-vars".text], .value "FALLBACK_VARS".text, []⟩

/-- Gives the version of the document. -/
def version : OptionDecl :=
  ⟨["--version".text], .value "DOC_VERSION".text, "Version for \x7b\x7bversion\x7d\x7d".text⟩

/-- Gives the source of the document. -/
def source : OptionDecl :=
  ⟨["--source".text], .value "SOURCE".text, "Source label for \x7b\x7bsource\x7d\x7d".text⟩

/-- The options that all commands have. -/
def common : List OptionDecl := [help, output, verbose]

end Options

/-- The operand that names a template. -/
def templateOperand : Text := "name".text

/-- The arguments of a command. -/
def CommandName.grammar (name : CommandName) : ArgumentGrammar where
  program := programName ++ " ".text ++ name.word
  options := Options.common ++ match name with
    | .render =>
      [Options.vars, Options.fallback, Options.fallbackVariables, Options.version, Options.source]
    | _ => []
  operands := match name with
    | .list => []
    | _ => [templateOperand]

/-! ## Calls -/

/-- What is rendered, and how. -/
structure RenderRequest where
  name : Text
  vars : Option Path
  fallback : Bool
  fallbackVariables : Option Path
  version : Option Text
  source : Option Text
  deriving DecidableEq, Repr

/-- A command with its operands and options. -/
inductive Command where
  | list
  | describe (name : Text)
  | render (r : RenderRequest)
  deriving DecidableEq, Repr

/-- A command and the options that all commands have. -/
structure Call where
  command : Command
  output : Option Text
  verbose : Bool
  deriving DecidableEq, Repr

namespace CommandName

/-- The command that findings give. -/
def command (name : CommandName) (found : Findings) : Command :=
  let template := (found.value? templateOperand).getD []
  match name with
  | list => .list
  | describe => .describe template
  | render => .render {
      name := template
      vars := (found.value? Options.vars.key).map Path.ofText
      fallback := found.has Options.fallback.key
      fallbackVariables := (found.value? Options.fallbackVariables.key).map Path.ofText
      version := found.value? Options.version.key
      source := found.value? Options.source.key }

/-- The call that findings give. -/
def call (name : CommandName) (found : Findings) : Call where
  command := name.command found
  output := found.value? Options.output.key
  verbose := found.has Options.verbose.key

end CommandName

/-! ## Help -/

/-- The page about all commands. -/
def helpPage : HelpPage where
  command := programVersion
  summary := "Render documentation templates with conditionals and loops".text
  usage :=
    ["docsync list".text,
     "docsync show <name>".text,
     "docsync render <name> [--vars FILE] [--fallback] [--fallback-vars FILE]".text,
     "               [--version V] [--source S]".text]
  sections :=
    [⟨"Commands".text,
      [("list".text, "List built-in and customized templates".text),
       ("show <name>".text, "Print a template body and its variables".text),
       ("render <name>".text, "Render a template to stdout".text)]⟩,
     ⟨"Options".text,
      [("--output auto|plain|rich".text, "Output mode".text),
       ("-v, --verbose".text, "Debug logging on stderr".text),
       ("--version".text, "Show version".text)]⟩]

end Stencil
