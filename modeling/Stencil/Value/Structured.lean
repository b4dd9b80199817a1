import Stencil.Decimal.Shortest
import Stencil.Text.Digit
import Stencil.Value.Basic

/-!
# The structured text of a value

* **Structured text** (`Value.structured?`): nested values as an indented JSON document, two spaces per level, empty
  containers on one line, with every character from U+0020 up as it is but the quote and the backslash.
* A value has one unless it holds, at any depth, something that JSON has no form for: a mapping that is no record,
  a value known only by its text, a knot, a key that is no scalar, or an integer with more than `digitLimit` digits.
-/

namespace Stencil

namespace Value

/-- The decimal digits of an integer within the digit limit. -/
def digits? (n : Int) : Option Text :=
  let ds := Text.ofNat n.natAbs
  if ds.length ≤ digitLimit then some (if n < 0 then '-' :: ds else ds) else none

/-- How structured text spells the numbers that have no digits. -/
def structuredSpelling : Spelling := ⟨"NaN".text, "Infinity".text⟩

/-- A character inside a quoted string. -/
def escaped (c : Point) : Text :=
  match c with
  | '"' => ['\\', '"']
  | '\\' => ['\\', '\\']
  | '\n' => ['\\', 'n']
  | '\r' => ['\\', 'r']
  | '\t' => ['\\', 't']
  | '\x08' => ['\\', 'b']
  | '\x0c' => ['\\', 'f']
  | c => if c.toNat < 0x20 then '\\' :: 'u' :: Text.hex 4 c.toNat else [c]

/-- A string between double quotes. -/
def stringLiteral (t : Text) : Text := '"' :: (t.flatMap escaped ++ [Point.char '"'])

/-- A newline and the indentation of a level. -/
def newline (level : Nat) : Text := '\n' :: Text.spaces (2 * level)

/-- The parts of a container between its brackets, each on a line of its own. -/
def bracketed (level : Nat) (opening closing : Point) (parts : List Text) : Text :=
  if parts.isEmpty then [opening, closing]
  else opening :: (newline (level + 1) ++ Text.join (',' :: newline (level + 1)) parts
    ++ newline level ++ [closing])

/-- The text of a key. -/
def keyText? : Value → Option Text
  | null => some "null".text
  | bool b => some (if b then "true".text else "false".text)
  | int n => digits? n
  | float x => some (x.text structuredSpelling)
  | str t => some t
  | _ => none

mutual

/-- The structured text of a value that stands at a level of nesting. -/
def structuredAt? (level : Nat) : Value → Option Text
  | null => some "null".text
  | bool b => some (if b then "true".text else "false".text)
  | int n => digits? n
  | float x => some (x.text structuredSpelling)
  | str t => some (stringLiteral t)
  | list items => (structuredItems? (level + 1) items).map (bracketed level '[' ']')
  | tuple items => (structuredItems? (level + 1) items).map (bracketed level '[' ']')
  | record entries => (structuredEntries? (level + 1) entries).map (bracketed level '{' '}')
  | _ => none

/-- The structured texts of the elements of a sequence. -/
def structuredItems? (level : Nat) : List Value → Option (List Text)
  | [] => some []
  | v :: vs => do
    let text ← structuredAt? level v
    return text :: (← structuredItems? level vs)

/-- The structured texts of the entries of a record. -/
def structuredEntries? (level : Nat) : List (Value × Value) → Option (List Text)
  | [] => some []
  | (k, v) :: rest => do
    let key ← keyText? k
    let text ← structuredAt? level v
    return (stringLiteral key ++ ": ".text ++ text) :: (← structuredEntries? level rest)

end

/-- The structured text of a value. -/
def structured? (v : Value) : Option Text := structuredAt? 0 v

end Value

end Stencil
