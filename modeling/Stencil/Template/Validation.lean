import Stencil.Template.Basic
import Stencil.Text.Basic

/-!
# Validating templates and customizations

* **Drafts** (`TemplateDraft`, `CustomizationDraft`) hold values where the name, the kind and the body should be.
* **Validation** (`TemplateDraft.validate`, `CustomizationDraft.validate`): a draft without problems is a template or
  a customization. All problems are reported at once, in order.
-/

namespace Stencil

/-- What is wrong with a draft. -/
inductive Problem where
  | templateName
  | templateBody
  | templateKind
  /-- The declaration of an index has no name. -/
  | variableName (index : Nat)
  | customizationName
  | customizationBody
  deriving DecidableEq, Repr

/-- The wording of a problem. -/
def Problem.message : Problem → Text
  | templateName => "template name is required".text
  | templateBody => "template body is required".text
  | templateKind => "template kind must be one of: ".text ++ Text.join ", ".text (Kind.all.map Kind.name)
  | variableName index => "variables[".text ++ Text.ofNat index ++ "] name is required".text
  | customizationName => "customization name is required".text
  | customizationBody => "customization body is required".text

/-- The text of a value that is a text with something in it. -/
def nonBlank? : Value → Option Text
  | .str t => if Text.IsBlank t then none else some t
  | _ => none

/-! ## Templates -/

/-- A declaration of a variable that may lack a name. -/
structure VariableDraft where
  name : Value
  type : Text
  required : Bool
  description : Text
  default : Value

/-- A template that may lack a name, a kind or a body. -/
structure TemplateDraft where
  name : Value
  kind : Value
  body : Value
  declared : List VariableDraft

namespace TemplateDraft

/-- The kind that a value names. -/
def kind? : Value → Option Kind
  | .str t => Kind.ofName? t
  | _ => none

/-- The problems of declarations from an index on. -/
def variableProblems : Nat → List VariableDraft → List Problem
  | _, [] => []
  | index, v :: vs =>
    let rest := variableProblems (index + 1) vs
    if (nonBlank? v.name).isNone then .variableName index :: rest else rest

/-- Everything that is wrong with a template. -/
def problems (d : TemplateDraft) : List Problem :=
  (if (nonBlank? d.name).isNone then [.templateName] else [])
    ++ (if (nonBlank? d.body).isNone then [.templateBody] else [])
    ++ (if (kind? d.kind).isNone then [.templateKind] else [])
    ++ variableProblems 0 d.declared

/-- The declaration of a draft with a name. -/
def declaration? (d : VariableDraft) : Option Variable :=
  (nonBlank? d.name).map fun name => ⟨name, d.type, d.required, d.description, d.default⟩

/-- The template of a draft, or its problems. -/
def validate (d : TemplateDraft) : Except (List Problem) Template :=
  match nonBlank? d.name, kind? d.kind, nonBlank? d.body, d.declared.mapM declaration? with
  | some name, some kind, some body, some declared => .ok ⟨name, kind, body, declared⟩
  | _, _, _, _ => .error d.problems

/-- A template as a draft. -/
def ofTemplate (t : Template) : TemplateDraft :=
  ⟨.str t.name, .str t.kind.name, .str t.body,
    t.declared.map fun v => ⟨.str v.name, v.type, v.required, v.description, v.default⟩⟩

end TemplateDraft

/-! ## Customizations -/

/-- A customization that may lack a name or a body. -/
structure CustomizationDraft where
  name : Value
  body : Value
  overrides : Fields
  metadata : Fields

namespace CustomizationDraft

/-- Everything that is wrong with a customization. -/
def problems (d : CustomizationDraft) : List Problem :=
  (if (nonBlank? d.name).isNone then [.customizationName] else [])
    ++ (if (nonBlank? d.body).isNone then [.customizationBody] else [])

/-- The customization of a draft, or its problems. -/
def validate (d : CustomizationDraft) : Except (List Problem) Customization :=
  match nonBlank? d.name, nonBlank? d.body with
  | some name, some body => .ok ⟨name, body, d.overrides, d.metadata⟩
  | _, _ => .error d.problems

/-- A customization as a draft. -/
def ofCustomization (c : Customization) : CustomizationDraft := ⟨.str c.name, .str c.body, c.overrides, c.metadata⟩

end CustomizationDraft

end Stencil
