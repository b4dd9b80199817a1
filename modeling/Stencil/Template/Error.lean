import Stencil.Directive.Resolution
import Stencil.Text.Basic
import Stencil.Text.Quoted

/-!
# Errors of templates

* **Errors** (`TemplateError`): a template that is not there, a render that failed, a draft with problems.
* **Default documents** (`defaultDocument`): what stands for a document that could not be rendered.
-/

namespace Stencil

/-- What went wrong with a template. -/
inductive TemplateError where
  /-- No template has the name. -/
  | notFound (name : Text)
  /-- The template was not rendered; the cause is the fault behind it, if one is. -/
  | render (name message : Text) (cause : Option Fault)
  /-- A draft has problems. -/
  | invalid (name : Value) (problems : List Text)
  /-- Anything else. -/
  | other (name : Value) (message : Text)

namespace TemplateError

/-- How a message names a draft. -/
def label (name : Value) : Text :=
  let shown := if name.isEmpty then .str "<unnamed>".text else name
  match shown.quotedForm with
  | .ok t => t
  | .error fault => fault.message

/-- The wording of an error. -/
def message : TemplateError → Text
  | notFound name => "template not found: ".text ++ name
  | render name why _ => "failed to render template ".text ++ Text.quoted name ++ ": ".text ++ why
  | invalid name problems =>
    "template validation failed for ".text ++ label name ++ ": ".text ++ Text.join ", ".text problems
  | other _ why => why

/-- The name that an error is about. -/
def templateName : TemplateError → Value
  | notFound name => .str name
  | render name _ _ => .str name
  | invalid name _ => name
  | other name _ => name

/-- Whether no template has the name. -/
def isNotFound : TemplateError → Bool
  | notFound _ => true
  | _ => false

end TemplateError

/-! ## Default documents -/

/-- The note of a document whose template is not there. -/
def notFoundNote : Text :=
  "This documentation was generated using a default template because the requested template was not found.".text
    ++ "\n\n## Content\n\nPlease customize this template to match your project's needs.".text

/-- The note of a document whose template failed. -/
def failedNote : Text :=
  "An error occurred while rendering the template. This is fallback content.".text

/-- The title of a default document. -/
def documentTitle (name : Text) : Text :=
  let title := Text.strip name
  if title.isEmpty then "untitled".text else title

/-- What stands for the document of a template that could not be rendered. -/
def defaultDocument (name : Text) (e : TemplateError) (timestamp : Text) : Text :=
  let note := if e.isNotFound then notFoundNote else failedNote
  let ending := if e.isNotFound then "using default template fallback".text else "using error recovery".text
  "# ".text ++ documentTitle name ++ "\n\n".text ++ note ++ "\n\n---\n*Generated on ".text ++ timestamp
    ++ " ".text ++ ending ++ "*\n".text

end Stencil
