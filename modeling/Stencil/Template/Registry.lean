import Stencil.NameMap
import Stencil.Template.Error
import Stencil.Template.Validation

/-!
# The registry of templates

* **Registries** (`Registry`): the registered templates and, over them, the customizations, each in order.
* **Reading** (`get?`, `list`): a customization hides the template of its name. Seen as a template it declares no
  variables and has the kind of the template that it hides.
* **Changing** (`register`, `customize`, `removeCustom`): a draft with problems changes nothing.
-/

namespace Stencil

/-- Registered templates and customizations. -/
structure Registry where
  templates : NameMap Template
  overlay : NameMap Customization

namespace Registry

/-- The registry without entries. -/
def empty : Registry := ⟨.empty, .empty⟩

/-! ## Reading -/

/-- A customization seen as a template. -/
def asTemplate (r : Registry) (c : Customization) : Template where
  name := c.name
  kind := ((r.templates.get? c.name).map (·.kind)).getD .generic
  body := c.body
  declared := []

/-- The customization of a name. -/
def getCustom? (r : Registry) (name : Text) : Option Customization := r.overlay.get? name

/-- The template that a name stands for. -/
def get? (r : Registry) (name : Text) : Option Template :=
  match r.overlay.get? name with
  | some c => some (r.asTemplate c)
  | none => r.templates.get? name

/-- The registered templates, and after them the customizations seen as templates. -/
def list (r : Registry) : List Template := r.templates.values ++ r.overlay.values.map r.asTemplate

/-- The customizations. -/
def listCustom (r : Registry) : List Customization := r.overlay.values

/-! ## Changing -/

/-- The template of a draft, or the error about its problems. -/
def checkTemplate (d : TemplateDraft) : Except TemplateError Template :=
  d.validate.mapError fun problems => .invalid d.name (problems.map Problem.message)

/-- The customization of a draft, or the error about its problems. -/
def checkCustomization (d : CustomizationDraft) : Except TemplateError Customization :=
  d.validate.mapError fun problems => .invalid d.name (problems.map Problem.message)

/-- The registry with a template under its name. -/
def add (r : Registry) (t : Template) : Registry := { r with templates := r.templates.insert t.name t }

/-- The registry with a customization over the template of its name. -/
def cover (r : Registry) (c : Customization) : Registry := { r with overlay := r.overlay.insert c.name c }

/-- Registers the template of a draft. -/
def register (r : Registry) (d : TemplateDraft) : Except TemplateError Registry := (checkTemplate d).map r.add

/-- Puts the customization of a draft over the templates. -/
def customize (r : Registry) (d : CustomizationDraft) : Except TemplateError Registry :=
  (checkCustomization d).map r.cover

/-- Removes the customization of a name, and tells whether there was one. -/
def removeCustom (r : Registry) (name : Text) : Registry × Bool :=
  ({ r with overlay := r.overlay.erase name }, (r.overlay.get? name).isSome)

/-- The registry of the templates of a list, registered in order. -/
def ofDrafts (ds : List TemplateDraft) : Except TemplateError Registry := ds.foldlM register empty

end Registry

end Stencil
