import Stencil.Decimal.Binary64
import Stencil.Text.Digit
import Stencil.Value.Basic

/-!
# Reading JSON

* **Documents** (`Json.read`): one value between blanks. Numbers without a fraction and an exponent are integers of any
  size up to a digit limit, and the words for infinities and for what is not a number are numbers too.
* A later entry of an object replaces the value of an earlier one with the same key.
* Two escapes that write the halves of a surrogate pair write its character; a half alone stays a half.
-/

namespace Stencil.Json

/-- Why a text is no document. -/
inductive Fault where
  /-- The text does not have the form of a document. -/
  | malformed
  /-- An integer has more digits than the limit. -/
  | tooManyDigits (count : Nat)
  deriving DecidableEq, Repr

/-- The wording of a fault. -/
def Fault.message : Fault → Text
  | malformed => "malformed JSON".text
  | tooManyDigits count => readLimitMessage count

/-- The blanks between tokens. -/
def isSpace (c : Point) : Bool := c = ' ' || c = '\t' || c = '\n' || c = '\r'

/-- The text from its first token on. -/
def skip (t : Text) : Text := t.dropWhile isSpace

/-! ## Strings -/

/-- The number of four hexadecimal digits. -/
def unit? (a b c d : Point) : Option Nat := Text.inBase? 16 [a, b, c, d]

/-- The character of a surrogate pair. -/
def pairChar? (high low : Nat) : Option Point :=
  if 0xD800 ≤ high ∧ high < 0xDC00 ∧ 0xDC00 ≤ low ∧ low < 0xE000 then
    some (Point.ofNat (0x10000 + (high - 0xD800) * 0x400 + (low - 0xDC00)))
  else none

/-- The character that a one letter escape writes. -/
def escape? : Point → Option Point
  | '"' => some '"'
  | '\\' => some '\\'
  | '/' => some '/'
  | 'b' => some '\x08'
  | 'f' => some '\x0c'
  | 'n' => some '\n'
  | 'r' => some '\r'
  | 't' => some '\t'
  | _ => none

/-- The point written by `\u` and four digits at the head of a text, or by two of these, and the rest. -/
def unicodeEscape? : Text → Option (Point × Text)
  | a :: b :: c :: d :: '\\' :: 'u' :: a' :: b' :: c' :: d' :: rest =>
    (unit? a b c d).map fun high =>
      match (unit? a' b' c' d').bind (pairChar? high) with
      | some ch => (ch, rest)
      | none => (Point.ofNat high, '\\' :: 'u' :: a' :: b' :: c' :: d' :: rest)
  | a :: b :: c :: d :: rest => (unit? a b c d).map fun n => (Point.ofNat n, rest)
  | _ => none

/-- The string whose opening quote stands before the text, and what follows its closing quote. -/
def stringTail? : Nat → Text → Option (Text × Text)
  | 0, _ => none
  | _ + 1, [] => none
  | _ + 1, '"' :: rest => some ([], rest)
  | fuel + 1, '\\' :: 'u' :: rest => do
    let (c, rest) ← unicodeEscape? rest
    let (cs, rest) ← stringTail? fuel rest
    return (c :: cs, rest)
  | fuel + 1, '\\' :: c :: rest => do
    let c ← escape? c
    let (cs, rest) ← stringTail? fuel rest
    return (c :: cs, rest)
  | fuel + 1, c :: rest => do
    guard (0x20 ≤ c.toNat ∧ c ≠ '\\')
    let (cs, rest) ← stringTail? fuel rest
    return (c :: cs, rest)

/-! ## Numbers -/

/-- The digits of an integer at the head of a text: a zero alone, or digits that start with none. -/
def wholeDigits (t : Text) : Text :=
  match t with
  | '0' :: _ => ['0']
  | _ => t.takeWhile Point.isDigit

/-- A point and at least one digit at the head of a text. -/
def fractionPart (t : Text) : Text :=
  match t with
  | '.' :: rest =>
    let digits := rest.takeWhile Point.isDigit
    if digits.isEmpty then [] else '.' :: digits
  | _ => []

/-- The sign at the head of a text. -/
def signPart (t : Text) : Text :=
  match t with
  | '+' :: _ => ['+']
  | '-' :: _ => ['-']
  | _ => []

/-- An exponent mark, a sign and at least one digit at the head of a text. -/
def exponentPart (t : Text) : Text :=
  match t with
  | c :: rest =>
    if c = 'e' ∨ c = 'E' then
      let sign := signPart rest
      let digits := (rest.drop sign.length).takeWhile Point.isDigit
      if digits.isEmpty then [] else c :: (sign ++ digits)
    else []
  | [] => []

/-- The number at the head of a text, and what follows it. -/
def number (limit : Nat) (t : Text) : Except Fault (Value × Text) :=
  let (negative, body) := match t with
    | '-' :: rest => (true, rest)
    | _ => (false, t)
  let whole := wholeDigits body
  if whole.isEmpty then .error .malformed
  else
    let rest := body.drop whole.length
    let fraction := fractionPart rest
    let exponent := exponentPart (rest.drop fraction.length)
    let rest := rest.drop (fraction.length + exponent.length)
    if fraction.isEmpty && exponent.isEmpty then
      if whole.length > limit then .error (.tooManyDigits whole.length)
      else
        let n : Int := Binary64.plainDigits whole
        .ok (.int (if negative then -n else n), rest)
    else
      match Binary64.readUnsigned? negative (Text.lowerLatin (whole ++ fraction ++ exponent)) with
      | some x => .ok (.float x, rest)
      | none => .error .malformed

/-! ## Documents -/

/-- The words that stand for values. -/
def words : List (Text × Value) :=
  [("null".text, .null), ("true".text, .bool true), ("false".text, .bool false),
   ("NaN".text, .float .nan), ("Infinity".text, .float (.infinite false)),
   ("-Infinity".text, .float (.infinite true))]

/-- The value of the word at the head of a text, and what follows it. -/
def word? (t : Text) : Option (Value × Text) :=
  words.findSome? fun (word, v) => (Text.after? word t).map (v, ·)

/-- An object with one more entry after those read. -/
def addEntry (key : Text) (v : Value) (entries : Fields) : Fields :=
  Fields.insertWith (fun k k' => k.text? == k'.text?) (.str key) v entries

mutual

/-- The value at the head of a text that starts with a token, and what follows it. -/
def value (limit : Nat) : Nat → Text → Except Fault (Value × Text)
  | 0, _ => .error .malformed
  | fuel + 1, t =>
    match t with
    | '"' :: rest =>
      match stringTail? (rest.length + 1) rest with
      | some (s, rest) => .ok (.str s, rest)
      | none => .error .malformed
    | '[' :: rest =>
      match skip rest with
      | ']' :: rest => .ok (.list [], rest)
      | rest => do
        let (items, rest) ← elements limit fuel rest
        return (.list items, rest)
    | '{' :: rest =>
      match skip rest with
      | '}' :: rest => .ok (.record [], rest)
      | rest => do
        let (entries, rest) ← members limit fuel rest []
        return (.record entries, rest)
    | t =>
      match word? t with
      | some result => .ok result
      | none => number limit t

/-- The elements of an array from one of them on, and what follows the closing bracket. -/
def elements (limit : Nat) : Nat → Text → Except Fault (List Value × Text)
  | 0, _ => .error .malformed
  | fuel + 1, t => do
    let (v, rest) ← value limit fuel t
    match skip rest with
    | ',' :: rest =>
      let (vs, rest) ← elements limit fuel (skip rest)
      return (v :: vs, rest)
    | ']' :: rest => return ([v], rest)
    | _ => .error .malformed

/-- The entries of an object from one of them on, after those read, and what follows the closing brace. -/
def members (limit : Nat) : Nat → Text → Fields → Except Fault (Fields × Text)
  | 0, _, _ => .error .malformed
  | fuel + 1, t, entries =>
    match t with
    | '"' :: rest =>
      match stringTail? (rest.length + 1) rest with
      | none => .error .malformed
      | some (key, rest) =>
        match skip rest with
        | ':' :: rest => do
          let (v, rest) ← value limit fuel (skip rest)
          let entries := addEntry key v entries
          match skip rest with
          | ',' :: rest => members limit fuel (skip rest) entries
          | '}' :: rest => return (entries, rest)
          | _ => .error .malformed
        | _ => .error .malformed
    | _ => .error .malformed

end

/-- The value of a document. -/
def read (limit : Nat) (t : Text) : Except Fault Value := do
  let (v, rest) ← value limit (2 * t.length + 2) (skip t)
  if (skip rest).isEmpty then return v else .error .malformed

end Stencil.Json
