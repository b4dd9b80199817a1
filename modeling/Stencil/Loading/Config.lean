import Stencil.Directive.Passes
import Stencil.Loading.Variables
import Stencil.Template.Validation

/-!
# The configuration file

* **Settings** (`Settings`): the pass budget, the directory of customizations, and the version and source of documents.
* **Configuration** (`Config`): the settings of a file. A file with any problem gives the standard settings without
  a directory, together with the first problem (`ConfigError`).
-/

namespace Stencil

/-! ## Settings -/

/-- What a configuration sets. -/
structure Settings where
  passes : PassBudget
  customDir : Option Path
  version : Text
  source : Text

/-- The place of the configuration file. -/
def configPath : Path := ⟨[], [".docsync".text, "docsync.toml".text]⟩

/-- The directory of customizations where none is set. -/
def standardCustomDir : Path := ⟨[], [".docsync".text, "templates".text]⟩

/-- The settings where none are given. -/
def Settings.standard : Settings where
  passes := defaultPasses
  customDir := some standardCustomDir
  version := Metadata.defaultVersion
  source := Metadata.defaultSource

/-! ## Problems -/

/-- The settings that have to be texts. -/
inductive TextSetting where
  | customDir
  | version
  | source
  deriving DecidableEq, Repr

/-- How a message names a setting. -/
def TextSetting.label : TextSetting → Text
  | customDir => "[templates].custom_dir".text
  | version => "[metadata].version".text
  | source => "[metadata].source".text

/-- The tables of a configuration. -/
inductive ConfigTable where
  | templates
  | metadata
  deriving DecidableEq, Repr

/-- The name of a table. -/
def ConfigTable.name : ConfigTable → Text
  | templates => "templates".text
  | metadata => "metadata".text

/-- What is wrong with a configuration. -/
inductive ConfigError where
  /-- The text of the file is no document, for the reason that its reader gives. -/
  | malformed (reason : Text)
  | notTable (table : ConfigTable)
  | passesNotInteger
  | passesTooFew
  | blankText (setting : TextSetting)
  deriving DecidableEq, Repr

/-- The wording of an error. -/
def ConfigError.message (e : ConfigError) : Text :=
  let about (problem : Text) : Text := configPath.text ++ ": ".text ++ problem
  match e with
  | malformed reason => "invalid TOML in ".text ++ configPath.text ++ ": ".text ++ reason
  | notTable table => about (Point.char '[' :: table.name ++ "] must be a table".text)
  | passesNotInteger => about "[templates].max_passes must be an integer".text
  | passesTooFew => about "[templates].max_passes must be >= 1".text
  | blankText setting => about (setting.label ++ " must be a non-empty string".text)

/-! ## Reading settings -/

/-- The entries of a table, which may be absent. -/
def tableOf (raw : Fields) (table : ConfigTable) : Except ConfigError Fields :=
  match raw.get? table.name with
  | none => .ok []
  | some (.record fields) => .ok fields
  | some _ => .error (.notTable table)

/-- The pass budget of a table. -/
def passesOf (templates : Fields) : Except ConfigError PassBudget :=
  match templates.get? "max_passes".text with
  | none => .ok defaultPasses
  | some (.int n) => (passBudget n).mapError fun _ => .passesTooFew
  | some _ => .error .passesNotInteger

/-- A text of a table without the blanks around it, which may be absent. -/
def textOf (table : Fields) (name : String) (setting : TextSetting) : Except ConfigError (Option Text) :=
  match table.get? name.text with
  | none => .ok none
  | some v =>
    match nonBlank? v with
    | some t => .ok (some (Text.strip t))
    | none => .error (.blankText setting)

/-- The settings of a document. -/
def settingsOf (raw : Fields) : Except ConfigError Settings := do
  let templates ← tableOf raw .templates
  let metadata ← tableOf raw .metadata
  let passes ← passesOf templates
  let customDir ← textOf templates "custom_dir" .customDir
  let version ← textOf metadata "version" .version
  let source ← textOf metadata "source" .source
  return {
    passes
    customDir := some ((customDir.map Path.ofText).getD standardCustomDir)
    version := version.getD Metadata.defaultVersion
    source := source.getD Metadata.defaultSource }

/-! ## Configurations -/

/-- The settings of a file and the problem of the file, if it has one. -/
structure Config where
  settings : Settings
  error : Option ConfigError

/-- The configuration of a file with a problem. -/
def Config.ofError (e : ConfigError) : Config := ⟨{ Settings.standard with customDir := none }, some e⟩

/-- The configuration of a parsed file. -/
def Config.ofDocument (raw : Fields) : Config :=
  match settingsOf raw with
  | .ok settings => ⟨settings, none⟩
  | .error e => .ofError e

/-- The configuration that the text of a file writes. An integer with too many digits stops the reading. -/
def parseConfig (t : Text) : Except LoadError Config :=
  match Toml.read t with
  | .ok raw => .ok (.ofDocument raw)
  | .error .malformed => .ok (.ofError (.malformed Toml.Fault.malformed.message))
  | .error fault => .error (.toml fault)

/-- The configuration below a directory. -/
def loadConfig (tree : FileTree) (base : List Text) : Except LoadError Config := do
  if tree.isFile base configPath then
    parseConfig (← (tree.readText base configPath configPath.text).mapError .read)
  else return ⟨.standard, none⟩

end Stencil
