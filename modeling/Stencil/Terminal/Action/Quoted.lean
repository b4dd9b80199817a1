import Stencil.Terminal.Action.Misuse

/-!
# Texts in quotes and long numbers

* **Escapes** (`badEscape?`, `badByteEscape?`): digits that are missing, or that stand for no character.
* **Neighbours** (`badTexts?`): texts that stand side by side are one text, and bytes do not mix with characters.
* **Numbers** (`longNumber?`): the limit on decimal digits.
-/

namespace Stencil.Action

/-! ## Texts in quotes -/

/-- The digits of an escape, given how many there should be, or how many there are. -/
def escapeDigits (count : Nat) (t : Text) : Except Nat Nat :=
  let digits := (t.take count).takeWhile fun c => (Text.hexValue? c).isSome
  match Text.inBase? 16 digits with
  | some n => if digits.length = count then .ok n else .error digits.length
  | none => .error digits.length

/-- How many digits an escape has, by its letter. -/
def escapeLength? (c : Point) : Option Nat :=
  match c with
  | 'x' => some 2
  | 'u' => some 4
  | 'U' => some 8
  | _ => none

/-- What is wrong with an escape at a position, given its letter and what follows it. -/
def escapeFault? (position : Nat) (c : Point) (cs : Text) : Option Misuse :=
  (escapeLength? c).bind fun count =>
    match escapeDigits count cs with
    | .error found =>
      let shape := Point.char '\\' :: c :: List.replicate count 'X'
      some (.badEscape position (position + 1 + found) ("truncated ".text ++ shape ++ " escape".text))
    | .ok n =>
      if n < 0x110000 then none else some (.badEscape position (position + 9) "illegal Unicode character".text)

/-- The first wrong escape in a text, from a position on. A character from U+0080 up takes the place of its escape. -/
def badEscape? : Nat → Text → Option Misuse
  | position, '\\' :: c :: cs =>
    (escapeFault? position c cs).or (badEscape? (position + if c.toNat < 128 then 2 else 16) cs)
  | position, c :: cs => badEscape? (position + if c.toNat < 128 then 1 else 10) cs
  | _, [] => none

/-- The first wrong escape in bytes, from a position on. -/
def badByteEscape? : Nat → Text → Option Misuse
  | position, '\\' :: c :: cs =>
    match c, escapeDigits 2 cs with
    | 'x', .error _ => some (.badByteEscape position)
    | _, _ => badByteEscape? (position + 2) cs
  | position, _ :: cs => badByteEscape? (position + 1) cs
  | _, [] => none

/-- What is wrong with one text in quotes. Only the escapes of texts without expressions are looked at. -/
def badQuoted? (t : Token) : Option Misuse :=
  let content := t.content
  let isPlain := t.letters.contains 'r' || (t.isComposed && content.any fun c => c = '\x7b' || c = '\x7d')
  if t.isBytes && content.any (128 ≤ ·.toNat) then some .wideBytes
  else if isPlain then none
  else if t.isBytes then badByteEscape? 0 content
  else badEscape? 0 content

/-- What is wrong with texts in quotes that stand side by side, given whether the first one stands for bytes. -/
def badTexts? (bytes : Option Bool) : List Tree → Option Misuse
  | .token t :: ts =>
    let mixed := if bytes.any (· != t.isBytes) then some .mixedBytes else none
    let bad := badQuoted? t
    (if t.isComposed then mixed.or bad else bad.or mixed).or (badTexts? (some t.isBytes) ts)
  | _ => none

/-- An integer in decimal digits that is too long to read. -/
def longNumber? : List Tree → Option Misuse
  | [.token t] =>
    let digits := t.text.filter (· ≠ Point.char '_')
    if digits.all Point.isDigit ∧ digits.length > digitLimit then some (.tooManyDigits digits.length) else none
  | _ => none

end Stencil.Action
