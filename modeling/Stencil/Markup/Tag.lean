import Stencil.Markup.Marker
import Stencil.Text.Alphanumeric
import Stencil.Text.Basic
import Stencil.Text.Scan

/-!
# Names, tags and placeholders

* **Names** (`readName?`): a Latin letter or an underscore, after it letters, numbers, underscores, points and hyphens
  of any script; an at sign may stand before it. A name is read as far as it goes.
* **Reserved names** belong to the metadata of a document; `thisName` and `indexName` to the innermost loop, and names
  after `thisPoint` are fields of its element.
* **Opening tags** (`openTag?`): `#if` or `#each` between double braces, spaces, a name, and spaces.
* **Placeholders** (`placeholder?`): a name between double braces, with blanks around it.
* **Conditionals** (`conditional?`) and **loops** (`loop?`): an opening tag together with the text up to its closing
  marker. A tag that is never closed is no item.
-/

namespace Stencil

/-! ## Names -/

/-- The characters that a name starts with. -/
def isNameStart (c : Point) : Bool := c.isAlpha || c = '_'

/-- The characters that a name goes on with. -/
def isNameChar (c : Point) : Bool := Text.isAlphanumeric c || c = '_' || c = '.' || c = '-'

/-- The name at the head of a text that starts with a letter, and what follows it. -/
def readPlainName? : Text → Option (Text × Text)
  | [] => none
  | c :: cs => if isNameStart c then some (c :: cs.takeWhile isNameChar, cs.dropWhile isNameChar) else none

/-- The name at the head of a text, and what follows it. -/
def readName? : Text → Option (Text × Text)
  | '@' :: cs => (readPlainName? cs).map fun (name, rest) => ('@' :: name, rest)
  | cs => readPlainName? cs

/-- Whether a text is a name. -/
def IsName (t : Text) : Prop := readName? t = some (t, [])

instance (t : Text) : Decidable (IsName t) := inferInstanceAs (Decidable (_ = _))

/-- The element of the innermost loop. -/
def thisName : Text := ['t', 'h', 'i', 's']

/-- What stands before the name of a field of the innermost element. -/
def thisPoint : Text := ['t', 'h', 'i', 's', '.']

/-- The position of the innermost element in its sequence. -/
def indexName : Text := ['@', 'i', 'n', 'd', 'e', 'x']

/-- The name of the time of a document. -/
def timestampName : Text := "timestamp".text

/-- The name of the version of a document. -/
def versionName : Text := "version".text

/-- The name of the source of a document. -/
def sourceName : Text := "source".text

/-- The names that belong to the metadata of a document. -/
def reservedNames : List Text := [timestampName, versionName, sourceName]

/-! ## Opening tags -/

/-- The two kinds of tags. -/
inductive TagKind where
  | conditional
  | loop
  deriving DecidableEq, Repr

/-- The word after the number sign of an opening tag. -/
def TagKind.word : TagKind → Text
  | conditional => ['i', 'f']
  | loop => ['e', 'a', 'c', 'h']

/-- An opening tag: its kind, its name, and the number of its characters. -/
structure OpenTag where
  kind : TagKind
  name : Text
  width : Nat
  deriving DecidableEq, Repr

/-- The name of a tag, after the word of its kind, and what follows the tag. -/
def tagName? (t : Text) : Option (Text × Text) :=
  match t with
  | ' ' :: cs => do
    let (name, rest) ← readName? (cs.dropWhile (· = ' '))
    let rest ← Text.after? ['}', '}'] (rest.dropWhile (· = ' '))
    return (name, rest)
  | _ => none

/-- The opening tag of a kind at the head of a text. -/
def openTagOf? (kind : TagKind) (t : Text) : Option OpenTag := do
  let rest ← Text.after? ('{' :: '{' :: '#' :: kind.word) t
  let (name, rest) ← tagName? rest
  return ⟨kind, name, t.length - rest.length⟩

/-- The opening tag at the head of a text. -/
def openTag? (t : Text) : Option OpenTag := (openTagOf? .conditional t).or (openTagOf? .loop t)

/-! ## Placeholders -/

/-- A placeholder: its name, and how it is written. -/
structure Placeholder where
  name : Text
  source : Text
  deriving DecidableEq, Repr

/-- The placeholder at the head of a text. -/
def placeholder? : Text.Recogniser Placeholder := fun t => do
  let rest ← Text.after? ['{', '{'] t
  let (name, rest) ← readName? (rest.dropWhile Text.isBlank)
  let rest ← Text.after? ['}', '}'] (rest.dropWhile Text.isBlank)
  let width := t.length - rest.length
  return (⟨name, t.take width⟩, width)

/-! ## Closed tags -/

/-- The characters of a text from one position up to another. -/
def Text.slice (t : Text) (first last : Nat) : Text := (t.take last).drop first

/-- A loop with its body. -/
structure Loop where
  name : Text
  body : Text
  deriving DecidableEq, Repr

/-- The closed loop at the head of a text. -/
def loop? : Text.Recogniser Loop := fun t => do
  let tag ← openTagOf? .loop t
  let found ← loopMarkers.matchFrom t 0
  return (⟨tag.name, t.slice tag.width found.closePos⟩, found.closePos + loopMarkers.closing.length)

/-- A conditional with its branches. -/
structure Conditional where
  name : Text
  yes : Text
  /-- The second branch, of a conditional that has one. -/
  no : Option Text
  deriving DecidableEq, Repr

/-- The closed conditional at the head of a text. -/
def conditional? : Text.Recogniser Conditional := fun t => do
  let tag ← openTagOf? .conditional t
  let found ← conditionalMarkers.matchFrom t 0
  let width := found.closePos + conditionalMarkers.closing.length
  match found.elsePos with
  | none => return (⟨tag.name, t.slice tag.width found.closePos, none⟩, width)
  | some pos =>
    let no := t.slice (pos + conditionalMarkers.alternativeLength) found.closePos
    return (⟨tag.name, t.slice tag.width pos, some no⟩, width)

end Stencil
