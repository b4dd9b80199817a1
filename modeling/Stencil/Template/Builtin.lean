import Stencil.Markup.Tree
import Stencil.Template.Registry

/-!
# The built-in templates

* **Bodies** (`Builtin.apiDocTree`, `Builtin.setupTree`, `Builtin.architectureTree`): trees whose written forms are the
  bodies. Optional fields of loop elements are read through `this.`, so that no outer variable stands in for them.
* **Templates** (`Builtin.templates`) and the registry that holds them (`Builtin.registry`).
-/

namespace Stencil.Builtin

open Markup

/-! ## Interfaces -/

/-- The line of a parameter. -/
def parameterTree : Markup :=
  lit "- `" ++ ifElse "this.name" (slot "this.name") (lit "unnamed") ++ lit "` ("
    ++ ifElse "this.type" (slot "this.type") (lit "unknown") ++ lit ")"
    ++ onlyIf "this.optional" (lit " - Optional")
    ++ onlyIf "this.description" (lit " - " ++ slot "this.description") ++ lit "\n"

/-- The section of an endpoint. -/
def endpointTree : Markup :=
  lit "### " ++ slot "name" ++ lit "\n\n**Method:** " ++ slot "method" ++ lit "\n**Path:** " ++ slot "path"
    ++ lit "\n\n" ++ onlyIf "this.description" (slot "this.description" ++ lit "\n\n")
    ++ onlyIf "this.parameters"
      (lit "**Parameters:**\n" ++ forEach "this.parameters" parameterTree ++ lit "\n")
    ++ lit "**Returns:** " ++ ifElse "this.returnType" (slot "this.returnType") (lit "unknown") ++ lit "\n\n"

/-- The description of an interface. -/
def apiDocTree : Markup :=
  lit "# " ++ slot "title" ++ lit " Documentation\n\n## Overview\n\n"
    ++ ifElse "description" (slot "description") (lit "API Documentation") ++ lit "\n\n## Endpoints\n\n"
    ++ ifElse "apis" (forEach "apis" endpointTree) (lit "*No endpoints documented yet.*\n\n")
    ++ lit "---\n*Generated on " ++ slot "timestamp" ++ lit "*\n"

/-! ## Setup instructions -/

/-- The instructions for a setup. -/
def setupTree : Markup :=
  lit "# Setup Instructions\n\n## Installation\n\n```bash\n" ++ slot "install_command"
    ++ lit "\n```\n\n## Configuration\n\n"
    ++ ifElse "config_steps" (forEach "config_steps" (lit "- " ++ slot "this" ++ lit "\n"))
      (lit "No additional configuration required.\n")
    ++ lit "\n## Usage\n\n"
    ++ ifElse "usage_example" (lit "```python\n" ++ slot "usage_example" ++ lit "\n```\n")
      (lit "See the project README for usage.\n")
    ++ onlyIf "notes" (lit "\n## Additional Notes\n\n" ++ slot "notes" ++ lit "\n")
    ++ lit "\n---\n*Generated on " ++ slot "timestamp" ++ lit "*\n"

/-! ## Architecture notes -/

/-- The section of a component. -/
def componentTree : Markup := lit "### " ++ slot "name" ++ lit "\n\n" ++ slot "description" ++ lit "\n\n"

/-- The section of a change. -/
def changeTree : Markup :=
  lit "### " ++ slot "component" ++ lit " (" ++ slot "type" ++ lit ")\n\n" ++ slot "description"
    ++ lit "\n\n**Impact:** " ++ slot "impact" ++ lit "\n\n"

/-- The notes on an architecture. -/
def architectureTree : Markup :=
  lit "# Architecture Notes\n\n## System Overview\n\n"
    ++ ifElse "overview" (slot "overview") (lit "System overview not provided.")
    ++ lit "\n\n## Components\n\n"
    ++ ifElse "components" (forEach "components" componentTree) (lit "No components documented yet.\n\n")
    ++ onlyIf "changes" (lit "## Recent Changes\n\n" ++ forEach "changes" changeTree)
    ++ lit "---\n*Generated on " ++ slot "timestamp" ++ lit "*\n"

/-! ## Templates -/

/-- A declaration of a text that may be left out. -/
def textVariable (name description : String) : Variable :=
  ⟨name.text, "string".text, false, description.text, .null⟩

/-- A declaration of a list that is empty where none is given. -/
def listVariable (name description : String) : Variable :=
  ⟨name.text, "array".text, false, description.text, .list []⟩

/-- The template that describes an interface. -/
def apiDoc : Template where
  name := "api-doc".text
  kind := .apiDoc
  body := apiDocTree.print
  declared :=
    [{ textVariable "title" "Document title prefix" with default := .str "API".text },
     textVariable "description" "Overview paragraph",
     listVariable "apis" ("Records with name, method, path, description, returnType "
      ++ "and parameters (name, type, optional, description)")]

/-- The template for setup instructions. -/
def setupInstructions : Template where
  name := "setup-instructions".text
  kind := .setupInstructions
  body := setupTree.print
  declared :=
    [{ textVariable "install_command" "Shell command that installs the project" with required := true },
     listVariable "config_steps" "Configuration steps",
     textVariable "usage_example" "Code sample",
     textVariable "notes" "Free-form closing notes"]

/-- The template for notes on an architecture. -/
def architectureNotes : Template where
  name := "architecture-notes".text
  kind := .architectureNotes
  body := architectureTree.print
  declared :=
    [textVariable "overview" "System overview",
     listVariable "components" "Records with name and description",
     listVariable "changes" "Records with component, type, description and impact"]

/-- The built-in templates, in order. -/
def templates : List Template := [apiDoc, setupInstructions, architectureNotes]

/-- A registry of the built-in templates. -/
def registry : Registry := templates.foldl Registry.add .empty

end Stencil.Builtin
