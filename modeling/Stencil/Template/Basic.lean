import Stencil.Substitution

/-!
# Templates

* **Templates** (`Template`): a named body with a kind and declared variables.
* **Customizations** (`Customization`): a body of its own for a name, with values that win over all others.
* **Contexts** (`Context`): the variables and the metadata that a template is rendered with.
-/

namespace Stencil

/-- The kinds of documents. -/
inductive Kind where
  | apiDoc
  | setupInstructions
  | architectureNotes
  | generic
  deriving DecidableEq, Repr

namespace Kind

/-- All kinds, in the order in which messages list them. -/
def all : List Kind := [apiDoc, setupInstructions, architectureNotes, generic]

/-- The name of a kind. -/
def name : Kind → Text
  | apiDoc => "api-doc".text
  | setupInstructions => "setup-instructions".text
  | architectureNotes => "architecture-notes".text
  | generic => "generic".text

/-- The kind of a name. -/
def ofName? (t : Text) : Option Kind := all.find? (·.name == t)

end Kind

/-- A variable that a template declares. -/
structure Variable where
  name : Text
  type : Text
  required : Bool
  description : Text
  /-- The value where none is given; null when there is no default. -/
  default : Value

/-- A template. -/
structure Template where
  name : Text
  kind : Kind
  body : Text
  declared : List Variable

namespace Template

/-- The names that must have a value, in the order of declaration. -/
def required (t : Template) : List Text := (t.declared.filter (·.required)).map (·.name)

/-- The values that the declarations give. -/
def defaults (t : Template) : Fields :=
  Fields.ofList (t.declared.filterMap fun v =>
    match v.default with
    | .null => none
    | value => some (.str v.name, value))

end Template

/-- A body that stands for a template of its name, or makes one. -/
structure Customization where
  name : Text
  body : Text
  overrides : Fields
  metadata : Fields

/-- What a template is rendered with. -/
structure Context where
  vars : Fields
  metadata : Metadata

/-- The context with more variables, which win over those that it has. -/
def Context.withVariables (c : Context) (extra : Fields) : Context :=
  { c with vars := c.vars.update extra }

end Stencil
