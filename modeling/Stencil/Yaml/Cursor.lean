import Stencil.Calendar
import Stencil.Decimal.Numeral

/-!
# Places in a YAML text

* **Faults** (`Yaml.Fault`): a text that does not have the form of a document, an escape that writes no character, or a
  scalar that has no value of its type.
* **Places** (`Cursor`): the rest of a text with the number of its first character, its line and its column.
* **Moving** (`Cursor.forward`, `Cursor.takeBreak?`): a line break starts a new line. Past the end of the text a place
  shows the null character, which no YAML text holds.
-/

namespace Stencil.Yaml

/-! ## Faults -/

/-- Why a text has no value. -/
inductive Fault where
  /-- The text does not have the form of a document, or a node has no value of its type. -/
  | malformed
  /-- An escape has a number that no character has. -/
  | noCharacter
  /-- An escape has a number that is too large for any character. -/
  | hugeCharacter
  /-- A number is not written as one. -/
  | number (f : NumeralFault)
  /-- A number is empty. -/
  | emptyNumber
  /-- A place of a number in base sixty is past the largest floating point number. -/
  | hugePlace
  /-- A word is no truth value. -/
  | noTruthValue (word : Text)
  /-- A time is not written as one. -/
  | noTime
  /-- A mapping stands for a time. -/
  | timeInMapping
  /-- A time does not exist. -/
  | calendar (f : CalendarFault)
  deriving DecidableEq, Repr

/-- The wording of a fault. -/
def Fault.message : Fault → Text
  | malformed => "malformed YAML".text
  | noCharacter => "chr() arg not in range(0x110000)".text
  | hugeCharacter => "Python int too large to convert to C int".text
  | number f => f.message
  | emptyNumber => "string index out of range".text
  | hugePlace => "int too large to convert to float".text
  | noTruthValue word => Text.quoted word
  | noTime => "'NoneType' object has no attribute 'groupdict'".text
  | timeInMapping => "expected string or bytes-like object, got 'list'".text
  | calendar f => f.message

/-- Whether a program tells of the fault and ends by itself. -/
def Fault.isReported : Fault → Bool
  | malformed | noCharacter | number _ | calendar _ => true
  | hugeCharacter | emptyNumber | hugePlace | noTruthValue _ | noTime | timeInMapping => false

/-! ## Places -/

/-- A place in a text. -/
structure Cursor where
  rest : Text
  index : Nat
  line : Nat
  column : Nat

/-- What a place shows past the end. -/
def endChar : Point := '\x00'

/-- Line breaks. -/
def isBreak (c : Point) : Bool := c = '\n' || c = '\r' || c = '\x85' || c = '\u2028' || c = '\u2029'

/-- Line breaks and the end. -/
def isBreakOrEnd (c : Point) : Bool := isBreak c || c = endChar

/-- Spaces, line breaks and the end. -/
def isSpaceOrEnd (c : Point) : Bool := c = ' ' || isBreakOrEnd c

/-- Spaces, tabs, line breaks and the end. -/
def isBlankOrEnd (c : Point) : Bool := c = ' ' || c = '\t' || isBreakOrEnd c

namespace Cursor

/-- The start of a text. -/
def start (t : Text) : Cursor := ⟨t, 0, 0, 0⟩

/-- The character at a distance. -/
def peek (c : Cursor) (distance : Nat) : Point := (c.rest[distance]?).getD endChar

/-- The character at the place. -/
def here (c : Cursor) : Point := c.peek 0

/-- The next place. -/
def next (c : Cursor) : Cursor :=
  match c.rest with
  | [] => c
  | ch :: rest =>
    if isBreak ch ∧ ¬ (ch = '\r' ∧ rest.head? = some (Point.char '\n')) then ⟨rest, c.index + 1, c.line + 1, 0⟩
    else ⟨rest, c.index + 1, c.line, if ch = '\uFEFF' then c.column else c.column + 1⟩

/-- The place after so many characters. -/
def forward (c : Cursor) : Nat → Cursor
  | 0 => c
  | n + 1 => c.next.forward n

/-- The characters up to the first one outside a class, and the place of that one. -/
def span (c : Cursor) (inClass : Point → Bool) : Text × Cursor :=
  let taken := c.rest.takeWhile inClass
  (taken, c.forward taken.length)

/-- The place after the characters of a class. -/
def skipWhile (c : Cursor) (inClass : Point → Bool) : Cursor := (c.span inClass).2

/-- The line break at the place, in its plain form, and the place after it. -/
def takeBreak? (c : Cursor) : Option (Point × Cursor) :=
  let ch := c.here
  if ch = '\u2028' ∨ ch = '\u2029' then some (ch, c.next)
  else if isBreak ch then
    some ('\n', if ch = '\r' ∧ c.peek 1 = '\n' then c.forward 2 else c.next)
  else none

/-- Whether a line that starts at the place ends or separates documents. -/
def atSeparator (c : Cursor) : Bool :=
  let three := c.rest.take 3
  (three = [Point.char '-', '-', '-'] || three = [Point.char '.', '.', '.']) && isBlankOrEnd (c.peek 3)

/-- The rest of a line that holds nothing but spaces and a comment, with its break. -/
def skipIgnoredLine (c : Cursor) : Except Fault Cursor :=
  let c := c.skipWhile (· = ' ')
  let c := if c.here = '#' then c.skipWhile (!isBreakOrEnd ·) else c
  if isBreakOrEnd c.here then .ok ((c.takeBreak?.map (·.2)).getD c) else .error .malformed

end Cursor

end Stencil.Yaml
