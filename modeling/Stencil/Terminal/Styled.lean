import Stencil.Terminal.Action.Literal
import Stencil.Terminal.Emoji
import Stencil.Terminal.Style

/-!
# Text with style tags

* **Tags** (`styleTag?`): a style between square brackets starts, the same behind a slash ends. An odd number of
  backslashes before a tag makes it text; two backslashes stand for one.
* **Open styles** (`applyTag`): a tag ends the innermost style of its name, whatever words wrote it. The parameters of
  an action are read when it ends.
* **Shown text** (`shown`): what a terminal without styles shows of a text with tags. An end without a start is an
  error (`StyleError`).
* **Control characters** (`withoutControls`): those that move the cursor are not shown.
-/

namespace Stencil

/-! ## Errors -/

/-- What is wrong with a tag. -/
inductive StyleError where
  /-- The tag at a position ends no style in particular, and none is open. -/
  | nothingOpen (position : Nat)
  /-- The tag at a position ends a style that is not open. -/
  | notOpen (tag : Text) (position : Nat)
  /-- The parameters of an action cannot be read. -/
  | action (parameters : Text) (e : Action.ActionFault)
  /-- A colour has a component that is no numeral. -/
  | numeral (e : NumeralFault)
  deriving DecidableEq, Repr

/-- The wording of an error. -/
def StyleError.message : StyleError → Text
  | nothingOpen position =>
    "closing tag '[/]' at position ".text ++ Text.ofNat position ++ " has nothing to close".text
  | notOpen tag position =>
    "closing tag '".text ++ tag ++ "' at position ".text ++ Text.ofNat position
      ++ " doesn't match any open tag".text
  | action parameters e => e.message parameters
  | numeral e => e.message

/-! ## Tags -/

/-- A tag in square brackets, and the backslashes before it. -/
structure StyleTag where
  slashes : Nat
  content : Text
  deriving DecidableEq, Repr

/-- The characters that a tag starts with. -/
def isTagStart (c : Point) : Bool := ('a' ≤ c && c ≤ 'z') || c = '#' || c = '/' || c = '@'

/-- The tag at the head of a text. -/
def styleTag? : Text.Recogniser StyleTag := fun t =>
  let slashes := (t.takeWhile (· = Point.char '\\')).length
  match t.drop slashes with
  | '[' :: c :: cs =>
    if isTagStart c then
      let inTag (c : Point) : Bool := c ≠ '[' && c ≠ ']'
      match cs.dropWhile inTag with
      | ']' :: _ =>
        let content := c :: cs.takeWhile inTag
        some (⟨slashes, content⟩, slashes + content.length + 2)
      | _ => none
    else none
  | _ => none

namespace StyleTag

/-- The tag as it is written, without what stands before it. -/
def source (tag : StyleTag) : Text := '[' :: (tag.content ++ [Point.char ']'])

/-- What the tag is about, without its parameters. -/
def name (tag : StyleTag) : Text := tag.content.takeWhile (· ≠ '=')

/-- What follows the first equals sign of the tag. -/
def parameters (tag : StyleTag) : Option Text := (Text.cutAt? ['='] tag.content).map (·.2)

end StyleTag

/-! ## Shown text -/

/-- A style that has started. -/
structure OpenStyle where
  name : Text
  parameters : Option Text
  deriving DecidableEq, Repr

namespace OpenStyle

/-- The style that a tag starts. -/
def ofTag (tag : StyleTag) : Except StyleError OpenStyle := do
  return ⟨← (Style.normalName tag.name).mapError .numeral, tag.parameters⟩

/-- What is wrong with the end of a style: an action has arguments that can be read. -/
def closeFault? (s : OpenStyle) : Option StyleError :=
  match s.name, s.parameters with
  | '@' :: _, some (c :: cs) => (Action.fault? (c :: cs)).map (.action (c :: cs))
  | _, _ => none

/-- The fault of a style when it is applied to a text, with its parameters. -/
def fault? (s : OpenStyle) : Option NumeralFault :=
  match s.parameters with
  | some parameters =>
    match Style.ofText? (s.name ++ Point.char ' ' :: parameters) with
    | .error e => some e
    | .ok _ => none
  | none => none

/-- The open styles without the innermost one of a name, and that one. -/
def pop? (name : Text) : List OpenStyle → Option (OpenStyle × List OpenStyle)
  | [] => none
  | s :: outer =>
    if s.name = name then some (s, outer) else (pop? name outer).map fun (found, rest) => (found, s :: rest)

end OpenStyle

/-- What is shown of a text. -/
structure Shown where
  text : Text
  /-- Why the styles of the text cannot be applied. -/
  fault : Option NumeralFault
  deriving DecidableEq, Repr

/-- The text, if its styles can be applied. -/
def Shown.styled (s : Shown) : Except StyleError Text :=
  match s.fault with
  | some fault => .error (.numeral fault)
  | none => .ok s.text

/-- The open style that a tag at a position ends, and the others, the innermost first. -/
def endStyle (position : Nat) (tag : StyleTag) (style : Text) (opened : List OpenStyle) :
    Except StyleError (OpenStyle × List OpenStyle) := do
  if (Text.strip style).isEmpty then
    match opened with
    | [] => throw (.nothingOpen position)
    | s :: outer => return (s, outer)
  else
    let name ← (Style.normalName (Text.strip style)).mapError .numeral
    match OpenStyle.pop? name opened with
    | some found => return found
    | none => throw (.notOpen tag.source position)

/-- The open styles after a tag at a position, the innermost first, and the fault of a style that the tag starts. -/
def applyTag (position : Nat) (tag : StyleTag) (opened : List OpenStyle) :
    Except StyleError (List OpenStyle × Option NumeralFault) := do
  match tag.name with
  | '/' :: style =>
    let (ended, rest) ← endStyle position tag style opened
    match ended.closeFault? with
    | some e => throw e
    | none => return (rest, none)
  | _ =>
    let s ← OpenStyle.ofTag tag
    return (s :: opened, s.fault?)

namespace Text

/-- The text between tags: a backslash before a bracket is not shown. -/
def unescapeBrackets : Text → Text
  | '\\' :: '[' :: cs => '[' :: unescapeBrackets cs
  | c :: cs => c :: unescapeBrackets cs
  | [] => []

/-- What is shown of the text between tags. -/
def shownLiteral (t : Text) : Text := withEmoji (unescapeBrackets t)

/-- What is shown of the pieces of a text, after some text in reverse, from a position on and within open styles. -/
def shownPieces : Text → Nat → List OpenStyle → List (Piece StyleTag) → Except StyleError Shown
  | acc, _, _, [] => .ok ⟨shownLiteral acc.reverse, none⟩
  | acc, position, opened, .char c :: ps => shownPieces (c :: acc) (position + 1) opened ps
  | acc, position, opened, .item tag :: ps => do
    let before := shownLiteral acc.reverse ++ List.replicate (tag.slashes / 2) (Point.char '\\')
    let next := position + tag.slashes + tag.source.length
    if tag.slashes % 2 = 1 then
      let rest ← shownPieces [] next opened ps
      return ⟨before ++ shownLiteral tag.source ++ rest.text, rest.fault⟩
    else
      let (opened, fault) ← applyTag (position + tag.slashes) tag opened
      let rest ← shownPieces [] next opened ps
      return ⟨before ++ rest.text, fault.or rest.fault⟩

/-- Whether a character moves the cursor, other than to the next line or tab. -/
def isCursorControl (c : Point) : Bool := c.toNat ∈ [7, 8, 11, 12, 13]

/-- The text without the characters that move the cursor. -/
def withoutControls (t : Text) : Text := t.filter fun c => !isCursorControl c

/-- What a terminal without styles shows of a text with tags. -/
def shown (t : Text) : Except StyleError Shown := do
  let s ← shownPieces [] 0 [] (pieces styleTag? t)
  return { s with text := withoutControls s.text }

end Text

end Stencil
