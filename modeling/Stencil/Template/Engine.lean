import Stencil.Directive.Passes
import Stencil.Template.Notice
import Stencil.Template.Registry

/-!
# The engine

* **Engines** (`Engine`): a registry and a pass budget of at least one.
* **Rendering** (`Engine.render`): the directives of the template are resolved, the placeholders filled, and the texts
  of loop elements put back last.
* **Rendering with a fallback** (`Engine.renderWithFallback`): a second try with more variables, and then the default
  document of the last error.
* A render also gives its notices, in order.
-/

namespace Stencil

/-! ## Engines -/

/-- What renders templates. -/
structure Engine where
  registry : Registry
  passes : PassBudget

namespace Engine

/-! ## Variables -/

/-- The variables that a template is rendered with: the defaults, under the given ones, under the overrides of the
customization of its name. -/
def effectiveVariables (e : Engine) (t : Template) (given : Fields) : Fields :=
  let vars := t.defaults.update given
  match e.registry.getCustom? t.name with
  | some c => vars.update c.overrides
  | none => vars

/-- The required names of a template that have no value. -/
def missing (t : Template) (vars : Fields) : List Text := t.required.filter fun name => !vars.has name

/-! ## Rendering -/

/-- The name of the kind of a fault. -/
def faultKind : Fault → Text
  | .value (.silent _) => "RuntimeError".text
  | .value .tooManyDigits => "ValueError".text
  | .overlongToken _ => "ValueError".text
  | .tooDeep => "RecursionError".text

/-- The error of a render that a fault stopped. -/
def renderFault (name : Text) (fault : Fault) : TemplateError :=
  let why := fault.message
  .render name (if why.isEmpty then faultKind fault else why) (some fault)

/-- The document of a body: the directives resolved, then the placeholders filled, then the held texts put back. -/
def fillBody (budget : Nat) (body : Text) (vars : Fields) (metadata : Metadata) : Resolve Text := do
  let resolved ← resolveDirectives budget body vars
  match substitute resolved vars metadata with
  | .error fault => throw (.value fault)
  | .ok filled =>
    match (← get).slots.restore filled with
    | .error count => throw (.overlongToken count)
    | .ok document => return document

/-- The outcome of a render, and how often a pass budget ran out. -/
def attempt (e : Engine) (name : Text) (context : Context) : Except TemplateError Text × Nat :=
  match e.registry.get? name with
  | none => (.error (.notFound name), 0)
  | some t =>
    let vars := e.effectiveVariables t context.vars
    let absent := missing t vars
    if !absent.isEmpty then
      let why := "missing required variables: ".text ++ Text.join ", ".text absent
      (.error (.render name why none), 0)
    else
      match (fillBody e.passes.val t.body vars context.metadata).run .empty with
      | .ok document ledger => (.ok document, ledger.exhausted)
      | .error fault ledger => (.error (renderFault name fault), ledger.exhausted)

/-- The document of a template. -/
def render (e : Engine) (name : Text) (context : Context) : Except TemplateError Text := (e.attempt name context).1

/-- The notices of a number of spent pass budgets. -/
def spentNotices (e : Engine) (count : Nat) : List Notice := List.replicate count (.passesSpent e.passes.val)

/-- The document of a template with its notices. -/
def renderNoting (e : Engine) (name : Text) (context : Context) : Except TemplateError Text × List Notice :=
  let (outcome, spent) := e.attempt name context
  (outcome, e.spentNotices spent)

/-! ## Rendering with a fallback -/

/-- The time of a default document: that of the metadata, or the present one. -/
def documentTime (metadata : Metadata) (now : Text) : Except TextFault Text :=
  if metadata.generatedAt.isEmpty then .ok now else metadata.generatedAt.plain

/-- The document of a template, or of a second try with the fallback variables if there are any, or the default document
of the last error; with the notices of both tries. -/
def renderWithFallback (e : Engine) (name : Text) (context : Context) (fallback : Option Fields) (now : Text) :
    Except TextFault Text × List Notice :=
  let default (error : TemplateError) : Except TextFault Text :=
    (documentTime context.metadata now).map (defaultDocument name error)
  match e.renderNoting name context with
  | (.ok document, notices) => (.ok document, notices)
  | (.error first, notices) =>
    let notices := notices ++ [.renderFailed name first.message]
    match fallback with
    | some (entry :: entries) =>
      match e.renderNoting name (context.withVariables (entry :: entries)) with
      | (.ok document, more) => (.ok document, notices ++ more)
      | (.error second, more) => (default second, notices ++ more ++ [.fallbackFailed name second.message])
    | _ => (default first, notices)

end Engine

end Stencil
