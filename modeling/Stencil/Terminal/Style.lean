import Stencil.Terminal.Colour

/-!
# Styles

* **Styles** (`Style`): attributes that are switched on or off, two colours and a link.
* **Reading** (`Style.ofText?`): word by word. Of two words about the same thing the later one holds.
* **Names** (`Style.name`): one text for each style. A text that writes no style is a name of its own
  (`Style.normalName`).
-/

namespace Stencil

/-! ## Attributes -/

/-- What a style switches on or off. -/
inductive StyleAttribute where
  | bold
  | dim
  | italic
  | underline
  | blink
  | fastBlink
  | reverse
  | conceal
  | strike
  | doubleUnderline
  | frame
  | encircle
  | overline
  deriving DecidableEq, Repr

namespace StyleAttribute

/-- The words for an attribute, its name first. -/
def words : StyleAttribute → List Text
  | bold => ["bold".text, "b".text]
  | dim => ["dim".text, "d".text]
  | italic => ["italic".text, "i".text]
  | underline => ["underline".text, "u".text]
  | blink => ["blink".text]
  | fastBlink => ["blink2".text]
  | reverse => ["reverse".text, "r".text]
  | conceal => ["conceal".text, "c".text]
  | strike => ["strike".text, "s".text]
  | doubleUnderline => ["underline2".text, "uu".text]
  | frame => ["frame".text]
  | encircle => ["encircle".text]
  | overline => ["overline".text, "o".text]

/-- The name of an attribute. -/
def name (a : StyleAttribute) : Text := a.words.head?.getD []

/-- All attributes, in the order in which a name lists them. -/
def all : List StyleAttribute :=
  [bold, dim, italic, underline, blink, fastBlink, reverse, conceal, strike, doubleUnderline, frame, encircle, overline]

/-- The attribute that a word stands for. -/
def ofWord? (word : Text) : Option StyleAttribute := all.find? fun a => a.words.contains word

end StyleAttribute

/-! ## Styles -/

/-- The look of a text. -/
structure Style where
  /-- Whether attributes are on, the latest first. -/
  attributes : List (StyleAttribute × Bool) := []
  foreground : Option Colour := none
  background : Option Colour := none
  link : Option Text := none
  deriving DecidableEq, Repr

namespace Style

/-- A style with one more attribute on or off. -/
def switch (s : Style) (a : StyleAttribute) (on : Bool) : Style := { s with attributes := (a, on) :: s.attributes }

/-- The words for one attribute of a style. -/
def attributeWords (s : Style) (a : StyleAttribute) : List Text :=
  match s.attributes.lookup a with
  | some true => [a.name]
  | some false => ["not".text, a.name]
  | none => []

/-- The words for a style. -/
def words (s : Style) : List Text :=
  StyleAttribute.all.flatMap s.attributeWords
    ++ s.foreground.toList.map (·.name)
    ++ (s.background.toList.flatMap fun colour => ["on".text, colour.name])
    ++ (s.link.toList.flatMap fun target => ["link".text, target])

/-- The name of the style that changes nothing. -/
def plainName : Text := "none".text

/-- The name of a style. -/
def name (s : Style) : Text := if s.words.isEmpty then plainName else Text.join [' '] s.words

/-! ## Reading -/

/-- Goes on with a colour, if a word writes one. -/
def withColour (word : Text) (next : Colour → Except NumeralFault (Option Style)) :
    Except NumeralFault (Option Style) := do
  match ← Colour.ofText? word with
  | some colour => next colour
  | none => return none

/-- The style that words change a style into. -/
def readWords (s : Style) : List Text → Except NumeralFault (Option Style)
  | [] => .ok (some s)
  | [word] =>
    match StyleAttribute.ofWord? (Text.lower word) with
    | some a => .ok (some (s.switch a true))
    | none => withColour word fun colour => .ok (some { s with foreground := some colour })
  | word :: second :: rest =>
    let key := Text.lower word
    if key = "on".text then withColour second fun colour => readWords { s with background := some colour } rest
    else if key = "not".text then
      match StyleAttribute.ofWord? second with
      | some a => readWords (s.switch a false) rest
      | none => .ok none
    else if key = "link".text then readWords { s with link := some second } rest
    else match StyleAttribute.ofWord? key with
      | some a => readWords (s.switch a true) (second :: rest)
      | none => withColour word fun colour => readWords { s with foreground := some colour } (second :: rest)

/-- The style that a text writes. -/
def ofText? (t : Text) : Except NumeralFault (Option Style) :=
  if Text.strip t = plainName then .ok (some {})
  else readWords {} (Text.nonblankRuns t)

/-- The name of the style that a text writes, and otherwise the text itself, without regard to capital letters and the
blanks around it. -/
def normalName (t : Text) : Except NumeralFault Text := do
  match ← ofText? t with
  | some s => return s.name
  | none => return Text.lower (Text.strip t)

end Style

end Stencil
