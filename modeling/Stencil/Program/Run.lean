import Stencil.Calendar
import Stencil.Loading.Config
import Stencil.Loading.Customizations
import Stencil.Loading.Variables
import Stencil.Program.Command
import Stencil.Program.Listing
import Stencil.Template.Builtin

/-!
# Running the program

* **Surroundings** (`Surroundings`): the files, the working directory, the environment, the place that the output goes
  to and the time, all that a run depends on besides its arguments.
* **Outcomes** (`Outcome`): the exit code and the two texts that a run writes. Some faults stop a run without an
  outcome (`Crash`). The texts are encoded in UTF-8: a half in the output that stands for nothing is such a fault, and
  in the errors all halves are escaped.
* **Preparing** (`prepare`): the configuration of the project around the working directory, and an engine with the
  built-in templates under the customizations of the project.
* **Running** (`run`).
-/

namespace Stencil

/-! ## Runs -/

/-- What a run depends on besides its arguments. -/
structure Surroundings where
  files : FileTree
  directory : List Text
  /-- The value of `modeVariable`. -/
  mode : Option Text
  /-- Whether the output is a terminal. -/
  terminal : Bool
  /-- The cells of a line of output. -/
  width : Nat
  /-- Whether the output takes halves that stand for bytes (`FileTree.isStrayByte`), as it does where no language is
  set. -/
  takesBytes : Bool := false
  now : Moment

/-- What a run does. -/
structure Outcome where
  exit : Nat
  output : Text
  errors : Text
  deriving DecidableEq, Repr

/-- Why a run stops without an outcome. -/
inductive Crash where
  | mode (e : ModeError)
  | load (e : LoadError)
  | style (e : StyleError)
  | help (e : HelpError)
  | value (e : TextFault)
  /-- The output holds halves that it does not take. -/
  | output
  deriving DecidableEq, Repr

/-- The wording of a crash. -/
def Crash.message : Crash → Text
  | mode e => e.message
  | load e => e.message
  | style e => e.message
  | help e => e.message
  | value e => e.message
  | output => "surrogates not allowed".text

/-! ## Writing -/

/-- A text that the output takes. -/
def Surroundings.Takes (w : Surroundings) (t : Text) : Prop :=
  ∀ p ∈ t, p.isHalf = true → w.takesBytes = true ∧ FileTree.isStrayByte p = true

instance (w : Surroundings) (t : Text) : Decidable (w.Takes t) :=
  inferInstanceAs (Decidable (∀ p ∈ t, p.isHalf = true → w.takesBytes = true ∧ FileTree.isStrayByte p = true))

/-- The outcome of a run that writes errors alone. -/
def Outcome.ofErrors (exit : Nat) (errors : Text) : Outcome := ⟨exit, [], errors.withEscapedHalves⟩

/-- A text as it is printed on lines of a width. -/
def printLines (width : Nat) (t : Text) : Text :=
  Text.unlines (Text.Fit.lines ⟨width, .fold, true⟩ (Text.withoutControls t))

/-- The lines of the notices that are shown. -/
def noticeLines (verbose : Bool) (notices : List Notice) : Text :=
  (notices.filter fun n => verbose || n.level = .warning).flatMap Notice.line

/-! ## Preparing -/

/-- A directory and those around it, from the inside out, that may hold a project. -/
def enclosing (tree : FileTree) (directory : List Text) : List (List Text) :=
  ((List.range (directory.length + 1)).reverse.map directory.take).filter fun parts => !tree.atRoot || !parts.isEmpty

/-- The names that mark the directory of a project. -/
def projectMarks : List Text := [".docsync".text, ".git".text]

/-- The directory of the project around a directory, or else the directory itself. -/
def projectRoot (tree : FileTree) (directory : List Text) : List Text :=
  ((enclosing tree directory).find? fun parts => projectMarks.any fun mark => tree.exists? parts ⟨[], [mark]⟩).getD
    directory

/-- Puts customizations over templates one by one, up to the first one with problems. -/
def customizeAll (r : Registry) : List CustomizationDraft → List Notice × Except TemplateError Registry
  | [] => ([], .ok r)
  | d :: ds =>
    match Registry.checkCustomization d with
    | .error e => ([], .error e)
    | .ok c =>
      let (notices, outcome) := customizeAll (r.cover c) ds
      (.customized c.name :: notices, outcome)

/-- What all commands start from. -/
structure Prepared where
  settings : Settings
  engine : Engine

/-- The registered built-in templates. -/
def registeredNotices : List Notice := Builtin.templates.map fun t => .registered t.name t.kind.name

/-- The settings and the engine of a project, or the wording of what is wrong with it; with the notices. -/
def prepare (w : Surroundings) : Except Crash (List Notice × Except Text Prepared) := do
  let root := projectRoot w.files w.directory
  let config ← (loadConfig w.files root).mapError .load
  if let some e := config.error then return ([], .error e.message)
  let drafts := match config.settings.customDir with
    | some directory => loadCustomizations w.files root directory (w.files.pathOf root)
    | none => .ok []
  match drafts with
  | .error (.read (.file e shown)) => return (registeredNotices, .error (e.message shown))
  | .error e => throw (.load e)
  | .ok drafts =>
    let (notices, outcome) := customizeAll Builtin.registry drafts
    let prepared := outcome.map fun registry => ⟨config.settings, ⟨registry, config.settings.passes⟩⟩
    return (registeredNotices ++ notices, prepared.mapError TemplateError.message)

/-! ## Commands -/

/-- What a command gives: its notices, and its output or the wording of what went wrong. -/
abbrev CommandResult := List Notice × Except Text Text

/-- Lists the templates. -/
def runList (width : Nat) (e : Engine) : Except Crash CommandResult := do
  return ([], .ok (← ((listingTable e.registry.listing).text width).mapError .style))

/-- The variables of a template as a table; a template without variables has none. -/
def variableText (width : Nat) (t : Template) : Except Crash Text :=
  if t.declared.isEmpty then .ok [] else ((variableTable t).text width).mapError .style

/-- Describes a template. -/
def runDescribe (width : Nat) (e : Engine) (name : Text) : Except Crash CommandResult := do
  match e.registry.get? name with
  | none => return ([], .error ("Template not found: ".text ++ name))
  | some t =>
    let title := printLines width (t.name ++ " (".text ++ t.kind.name ++ ")".text)
    let table ← variableText width t
    return ([], .ok (title ++ table ++ "\n".text ++ printLines width (Text.withEmoji t.body)))

/-- The text with a newline at its end. -/
def withFinalNewline (t : Text) : Text := if Text.endsWith ['\n'] t then t else t ++ "\n".text

/-- A given text that is not empty, or another one. -/
def orText (given : Option Text) (other : Text) : Text :=
  match given with
  | some (c :: cs) => c :: cs
  | _ => other

/-- What a request renders with, given its variables. -/
def RenderRequest.context (r : RenderRequest) (settings : Settings) (now : Moment) (vars : Fields) : Context where
  vars
  metadata :=
    { generatedAt := .str now.text
      version := .str (orText r.version settings.version)
      source := .str (orText r.source settings.source) }

/-- The variables of a file, if there is one. -/
def variablesOf? (w : Surroundings) : Option Path → Except LoadError (Option Fields)
  | none => .ok none
  | some p => (loadVariables w.files w.directory p).map some

/-- The variables of a request, and those of its second try. -/
def RenderRequest.load (r : RenderRequest) (w : Surroundings) : Except LoadError (Fields × Option Fields) := do
  let vars ← variablesOf? w r.vars
  let fallback ← variablesOf? w r.fallbackVariables
  return (vars.getD [], fallback)

/-- Renders a template. -/
def runRender (w : Surroundings) (p : Prepared) (r : RenderRequest) : Except Crash CommandResult := do
  match r.load w with
  | .error e => if e.isReported then return ([], .error e.message) else throw (.load e)
  | .ok (vars, fallback) =>
    let context := r.context p.settings w.now vars
    if r.fallback then
      let (document, notices) := p.engine.renderWithFallback r.name context fallback w.now.text
      return (notices, .ok (withFinalNewline (← document.mapError .value)))
    else
      let (document, notices) := p.engine.renderNoting r.name context
      return (notices, (document.map withFinalNewline).mapError TemplateError.message)

/-- Runs a command. -/
def Command.run (w : Surroundings) (p : Prepared) : Command → Except Crash CommandResult
  | .list => runList w.width p.engine
  | .describe name => runDescribe w.width p.engine name
  | .render r => runRender w p r

/-! ## Running -/

/-- The outcome of what is wrong with a call. -/
def misuse (message : Text) : Outcome := .ofErrors 2 (programName ++ ": ".text ++ message ++ "\n".text)

/-- The outcome of a result. -/
def CommandResult.outcome (w : Surroundings) (verbose : Bool) (r : CommandResult) : Except Crash Outcome :=
  let notices := noticeLines verbose r.1
  match r.2 with
  | .ok output => if w.Takes output then .ok ⟨0, output, notices.withEscapedHalves⟩ else .error .output
  | .error message => .ok (.ofErrors 1 (notices ++ printLines w.width message))

/-- Runs the command of a call on what it starts from, after some notices. -/
def Call.runPrepared (w : Surroundings) (c : Call) (p : Prepared) (notices : List Notice) : Except Crash Outcome := do
  let (more, result) ← c.command.run w p
  CommandResult.outcome w c.verbose (notices ++ more, result)

/-- Runs a call. -/
def Call.run (w : Surroundings) (c : Call) : Except Crash Outcome := do
  match resolveMode c.output w.mode w.terminal with
  | .error e => return misuse e.message
  | .ok _ =>
    let (notices, prepared) ← prepare w
    match prepared with
    | .error message => CommandResult.outcome w c.verbose (notices, .error message)
    | .ok p => c.runPrepared w p notices

/-- Runs a command on its arguments. -/
def CommandName.run (w : Surroundings) (name : CommandName) (arguments : List Text) : Except Crash Outcome :=
  match name.grammar.read arguments with
  | .error .help => .ok ⟨0, name.grammar.help, []⟩
  | .error (.error e) => .ok (.ofErrors 2 (name.grammar.errorText e))
  | .ok found => (name.call found).run w

/-- The page about all commands, in the form that the environment chooses. -/
def runHelp (w : Surroundings) : Except Crash Outcome := do
  let mode ← (resolveMode none w.mode w.terminal).mapError .mode
  return ⟨0, ← (helpPage.text w.width mode).mapError .help, []⟩

/-- Runs the program on its arguments. -/
def run (w : Surroundings) (arguments : List Text) : Except Crash Outcome :=
  match arguments with
  | [] => runHelp w
  | word :: rest =>
    if word = "--version".text then .ok ⟨0, programVersion ++ "\n".text, []⟩
    else if rest.isEmpty && Options.help.names.contains word then runHelp w
    else match CommandName.ofWord? word with
      | some name => name.run w rest
      | none => .ok (misuse ("unknown command ".text ++ Text.quoted word))

end Stencil
