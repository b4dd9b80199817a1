import Stencil.Files.Tree
import Stencil.Json.Reader
import Stencil.Toml.Document
import Stencil.Yaml.Document

/-!
# Loading variables

* **Errors** (`LoadError`): a file that is not read, a text that is not in the format of its file, a value that does
  not exist, or a document that is no mapping. Most of them are reported (`LoadError.isReported`); the others stop a
  program.
* **Variables** (`loadVariables`): the mapping in a file, which is JSON when its name ends in `.json` and YAML
  otherwise. An empty document counts as an empty mapping.
-/

namespace Stencil

/-! ## Errors of loading -/

/-- Why a file gives no value. -/
inductive LoadError where
  | read (e : ReadError)
  | json (f : Json.Fault)
  | yaml (f : Yaml.Fault)
  | toml (f : Toml.Fault)
  /-- The document of a file is no mapping. -/
  | notMapping (shown : Text)
  deriving DecidableEq, Repr

/-- The wording of an error. -/
def LoadError.message : LoadError → Text
  | read e => e.message
  | json f => f.message
  | yaml f => f.message
  | toml f => f.message
  | notMapping shown => shown ++ ": variables must be a mapping".text

/-- Whether a program tells of the error and ends by itself. -/
def LoadError.isReported : LoadError → Bool
  | yaml f => f.isReported
  | _ => true

/-! ## Variable files -/

/-- The suffix of files in JSON. -/
def jsonSuffix : Text := ".json".text

/-- The value of the text of a file. -/
def parseVariables (p : Path) (t : Text) : Except LoadError Value :=
  if p.suffix = jsonSuffix then (Json.read digitLimit t).mapError .json else (Yaml.read t).mapError .yaml

/-- The variables in a file. -/
def loadVariables (tree : FileTree) (base : List Text) (p : Path) : Except LoadError Fields := do
  let t ← (tree.readText base p p.text).mapError .read
  match (← parseVariables p t).opened with
  | .null => return []
  | .record fields => return fields
  | _ => throw (.notMapping p.text)

end Stencil
