import Stencil.Loading.Variables
import Stencil.Template.Validation

/-!
# Customization files

* **Front matter** (`splitFrontMatter`): a mapping between two marks at the start of a text. A text whose front matter
  is no mapping has none.
* **Customizations** (`readCustomization`): the name and the overrides come from the front matter, and the rest of it is
  metadata. Without a name the file gives it.
* **Directories** (`loadCustomizations`): all files with the suffix `.md`, in the order of their names.
-/

namespace Stencil

/-! ## Front matter -/

/-- The mark around front matter. -/
def frontMatterMark : Text := ['-', '-', '-']

/-- The text between the first two marks of a text that starts with one, and the text after them. -/
def frontMatterParts? (t : Text) : Option (Text × Text) :=
  (Text.after? frontMatterMark t).bind (Text.cutAt? frontMatterMark)

/-- The front matter and the body of a text, given how front matter is read. Only a value that does not exist is an
error. -/
def splitFrontMatter (parse : Text → Except Yaml.Fault Yaml.Document) (t : Text) : Except Yaml.Fault (Fields × Text) :=
  match frontMatterParts? t with
  | none => .ok ([], t)
  | some (header, body) =>
    let body := body.dropWhile (· = Point.char '\n')
    match parse header with
    | .ok document =>
      match document.value.opened with
      | .record fields => .ok (fields, body)
      | _ => if document.isEmpty then .ok ([], body) else .ok ([], t)
    | .error .malformed => .ok ([], t)
    | .error fault => .error fault

/-! ## Customizations -/

/-- The name of a customization: that of its front matter, or that of its file. -/
def customizationName (header : Fields) (p : Path) : Text :=
  match (header.get? "name".text).bind nonBlank? with
  | some name => Text.strip name
  | none => p.stem

/-- The overrides of a customization. -/
def customizationOverrides (header : Fields) : Fields :=
  match (header.get? "variables".text).map Value.opened with
  | some (.record overrides) => overrides
  | _ => []

/-- The customization that the text of a file writes. -/
def parseCustomization (p : Path) (t : Text) : Except LoadError CustomizationDraft := do
  let (header, body) ← (splitFrontMatter Yaml.Document.ofText t).mapError .yaml
  return {
    name := .str (customizationName header p)
    body := .str body
    overrides := customizationOverrides header
    metadata := (header.erase "name".text).erase "variables".text }

/-- The customization in a file. -/
def readCustomization (tree : FileTree) (base : List Text) (p : Path) (shown : Text) :
    Except LoadError CustomizationDraft := do
  parseCustomization p (← (tree.readText base p shown).mapError .read)

/-! ## Directories -/

/-- Whether one text comes before another or is the same, by the numbers of the characters. -/
def comesFirst : Text → Text → Bool
  | [], _ => true
  | _ :: _, [] => false
  | c :: cs, d :: ds => c.toNat < d.toNat || (c = d && comesFirst cs ds)

/-- The names of the customization files among some names, in order. -/
def customizationFiles (names : List Text) : List Text :=
  (names.filter (Text.endsWith ".md".text)).mergeSort comesFirst

/-- The customizations in a directory; none where there is no directory. Errors show paths from `shownBase` on. -/
def loadCustomizations (tree : FileTree) (base : List Text) (directory : Path) (shownBase : Path) :
    Except LoadError (List CustomizationDraft) := do
  let text := (shownBase.join directory).text
  let found ← (tree.isDirectory base directory text).mapError fun e => .read (.file e text)
  if found then
    (customizationFiles (tree.listing base directory)).mapM fun name =>
      let p := directory.join ⟨[], [name]⟩
      readCustomization tree base p (shownBase.join p).text
  else return []

end Stencil
