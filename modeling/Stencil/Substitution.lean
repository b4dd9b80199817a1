import Stencil.Markup.Tag
import Stencil.Value.Printed

/-!
# Filling placeholders

* **Substitution** (`substitute`): each placeholder of a text is replaced once, by the metadata for the reserved names
  and by the printed text of the variable for others. Placeholders of unknown names stay, and what is put in place is
  not read again.
-/

namespace Stencil

/-- What is known about a document besides its variables. -/
structure Metadata where
  generatedAt : Value
  version : Value
  source : Value

namespace Metadata

/-- The version of a document that states none. -/
def defaultVersion : Text := "1.0.0".text

/-- The source of a document that states none. -/
def defaultSource : Text := "docsync".text

/-- The value of a reserved name. -/
def get? (m : Metadata) (name : Text) : Option Value :=
  if name = timestampName then some m.generatedAt
  else if name = versionName then some m.version
  else if name = sourceName then some m.source
  else none

end Metadata

/-- The value that a placeholder shows. -/
def placeholderValue? (vars : Fields) (metadata : Metadata) (name : Text) : Option Value :=
  (metadata.get? name).or (vars.get? name)

/-- What is put in the place of a placeholder. -/
def substituteOne (vars : Fields) (metadata : Metadata) (p : Placeholder) : Except TextFault Text :=
  match placeholderValue? vars metadata p.name with
  | some v => v.printed
  | none => .ok p.source

/-- The text with its placeholders filled. -/
def substitute (t : Text) (vars : Fields) (metadata : Metadata) : Except TextFault Text :=
  Text.replaceM placeholder? (substituteOne vars metadata) t

end Stencil
