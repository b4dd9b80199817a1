import Stencil.Calendar
import Stencil.Decimal.Binary64
import Stencil.Text.Digit
import Stencil.Value.Basic

/-!
# TOML strings, numbers and times

* **Strings** (`basicString`, `literalString`): with escapes or without, on one line or on several.
* **Times** (`time?`) and **numbers** (`number?`), each with what follows it.
-/

namespace Stencil.Toml

/-- Why a text is no document. -/
inductive Fault where
  /-- The text does not have the form of a document. -/
  | malformed
  /-- An integer has more digits than the limit. -/
  | tooManyDigits (count : Nat)
  deriving DecidableEq, Repr

/-- The wording of a fault. -/
def Fault.message : Fault → Text
  | malformed => "malformed TOML".text
  | tooManyDigits count => readLimitMessage count

/-- Spaces and tabs. -/
def isSpace (c : Point) : Bool := c = ' ' || c = '\t'

/-- Spaces, tabs and newlines. -/
def isSpaceOrNewline (c : Point) : Bool := isSpace c || c = '\n'

/-- The control characters that a line may not hold. -/
def isControl (c : Point) : Bool := (c.toNat < 32 && c ≠ '\t') || c.toNat = 127

/-- The control characters that a text of several lines may not hold. -/
def isLineControl (c : Point) : Bool := isControl c && c ≠ '\n'

/-! ## Strings -/

/-- The three quotes around a string of several lines. -/
def tripleQuote (quote : Point) : Text := [quote, quote, quote]

/-- The character that an escape of one letter writes. -/
def escapeLetter? : Point → Option Point
  | 'b' => some '\x08'
  | 't' => some '\t'
  | 'n' => some '\n'
  | 'f' => some '\x0c'
  | 'r' => some '\r'
  | '"' => some '"'
  | '\\' => some '\\'
  | _ => none

/-- The character of so many hexadecimal digits. -/
def hexChar (width : Nat) (t : Text) : Except Fault (Point × Text) :=
  let digits := t.take width
  match Text.inBase? 16 digits with
  | some n =>
    if digits.length = width ∧ n.isValidChar then .ok (Char.ofNat n, t.drop width) else .error .malformed
  | none => .error .malformed

/-- What an escape writes after its backslash. In a text of several lines it may pass over white space that holds a
newline. -/
def basicEscape (multiline : Bool) (t : Text) : Except Fault (Text × Text) :=
  match t with
  | [] => .error .malformed
  | c :: rest =>
    if multiline && isSpaceOrNewline c then
      match (c :: rest).dropWhile isSpace with
      | [] => .ok ([], [])
      | '\n' :: rest => .ok ([], rest.dropWhile isSpaceOrNewline)
      | _ => .error .malformed
    else if c = 'u' then (hexChar 4 rest).map fun (ch, rest) => ([ch], rest)
    else if c = 'U' then (hexChar 8 rest).map fun (ch, rest) => ([ch], rest)
    else match escapeLetter? c with
      | some ch => .ok ([ch], rest)
      | none => .error .malformed

/-- The text up to the closing quotes, after the text read so far. -/
def basicBody (multiline : Bool) (text : Text) : Nat → Text → Except Fault (Text × Text)
  | 0, _ => .error .malformed
  | fuel + 1, t =>
    match t with
    | [] => .error .malformed
    | c :: rest =>
      if c = '"' then
        if !multiline then .ok (text, rest)
        else match Text.after? (tripleQuote '"') t with
          | some rest => .ok (text, rest)
          | none => basicBody multiline (text ++ "\"".text) fuel rest
      else if c = '\\' then do
        let (written, rest) ← basicEscape multiline rest
        basicBody multiline (text ++ written) fuel rest
      else if (if multiline then isLineControl c else isControl c) then .error .malformed
      else basicBody multiline (text ++ [c]) fuel rest

/-- The quotes, at most two, that belong to a string of several lines although they follow its end. -/
def moreQuotes (quote : Point) (text t : Text) : Text × Text :=
  match t with
  | q :: q' :: rest =>
    if q = quote then (if q' = quote then (text ++ [q, q'], rest) else (text ++ [q], q' :: rest)) else (text, t)
  | [q] => if q = quote then (text ++ [q], []) else (text, t)
  | [] => (text, t)

/-- The text without the newline that may stand at its head. -/
def dropNewline : Text → Text
  | '\n' :: rest => rest
  | t => t

/-- A string with escapes, from its first quote on. -/
def basicString (severalLines : Bool) (t : Text) : Except Fault (Text × Text) :=
  match if severalLines then Text.after? (tripleQuote '"') t else none with
  | some rest => do
    let rest := dropNewline rest
    let (text, rest) ← basicBody true [] (rest.length + 1) rest
    return moreQuotes '"' text rest
  | none => basicBody false [] (t.length + 1) (t.drop 1)

/-- A string without escapes, from its first quote on. -/
def literalString (severalLines : Bool) (t : Text) : Except Fault (Text × Text) :=
  match if severalLines then Text.after? (tripleQuote '\'') t else none with
  | some rest =>
    match Text.cutAt? (tripleQuote '\'') (dropNewline rest) with
    | some (text, rest) => if text.any isLineControl then .error .malformed else .ok (moreQuotes '\'' text rest)
    | none => .error .malformed
  | none =>
    match Text.cutAt? ['\''] (t.drop 1) with
    | some (text, rest) => if text.any isControl then .error .malformed else .ok (text, rest)
    | none => .error .malformed

/-! ## Times -/

/-- The number of so many digits between two bounds, and what follows it. -/
def digitsBetween? (width least most : Nat) (t : Text) : Option (Nat × Text) := do
  let digits := t.take width
  guard (digits.length = width && digits.all Point.isDigit)
  let n ← Text.inBase? 10 digits
  guard (least ≤ n && n ≤ most)
  return (n, t.drop width)

/-- The time of day at the head of a text, and what follows it. -/
def clock? (t : Text) : Option (Clock × Text) := do
  let (hour, t) ← digitsBetween? 2 0 23 t
  let t ← Text.after? [':'] t
  let (minute, t) ← digitsBetween? 2 0 59 t
  let t ← Text.after? [':'] t
  let (second, t) ← digitsBetween? 2 0 59 t
  let fraction := match t with
    | '.' :: rest => rest.takeWhile Point.isDigit
    | _ => []
  let six := fraction.take 6
  let microsecond := (Text.inBase? 10 (six ++ List.replicate (6 - six.length) (Point.char '0'))).getD 0
  let rest := if fraction.isEmpty then t else t.drop (fraction.length + 1)
  return (⟨hour, minute, second, microsecond, none⟩, rest)

/-- The offset at the head of a text, if one is there, and what follows it. -/
def offset (t : Text) : Option Int × Text :=
  let signed (sign : Int) (rest : Text) : Option (Int × Text) := do
    let (hours, rest) ← digitsBetween? 2 0 23 rest
    let rest ← Text.after? [':'] rest
    let (minutes, rest) ← digitsBetween? 2 0 59 rest
    return (sign * (60 * hours + minutes), rest)
  let found := match t with
    | 'Z' :: rest => some (0, rest)
    | 'z' :: rest => some (0, rest)
    | '+' :: rest => signed 1 rest
    | '-' :: rest => signed (-1) rest
    | _ => none
  match found with
  | some (minutes, rest) => (some minutes, rest)
  | none => (none, t)

/-- The three numbers of the date at the head of a text, and what follows it. -/
def dateNumbers? (t : Text) : Option ((Nat × Nat × Nat) × Text) := do
  let (year, t) ← digitsBetween? 4 0 9999 t
  let t ← Text.after? ['-'] t
  let (month, t) ← digitsBetween? 2 1 12 t
  let t ← Text.after? ['-'] t
  let (day, t) ← digitsBetween? 2 1 31 t
  return ((year, month, day), t)

/-- The time of day that may follow a date, and what follows it. -/
def dateClock? (t : Text) : Option (Clock × Text) := do
  match t with
  | c :: rest =>
    guard (c = 'T' || c = 't' || c = ' ')
    let (clock, rest) ← clock? rest
    let (minutes, rest) := offset rest
    return ({ clock with offset := minutes }, rest)
  | [] => none

/-- The date or time at the head of a text, and what follows it. -/
def time? (t : Text) : Option (Except Fault (Value × Text)) :=
  match dateNumbers? t with
  | some ((year, month, day), rest) =>
    match Date.of year month day with
    | .error _ => some (.error .malformed)
    | .ok date =>
      match dateClock? rest with
      | some (clock, rest) => some (.ok (.foreign (date.text ++ " ".text ++ clock.text), rest))
      | none => some (.ok (.foreign date.text, rest))
  | none => (clock? t).map fun (clock, rest) => .ok (.foreign clock.text, rest)

/-! ## Numbers -/

/-- The digits of a class at the head of a text, with single underscores between them. -/
def spacedDigits (inClass : Point → Bool) : Text → Text
  | [] => []
  | c :: rest =>
    if !inClass c then []
    else match rest with
      | '_' :: d :: rest' => if inClass d then c :: '_' :: spacedDigits inClass (d :: rest') else [c]
      | rest => c :: spacedDigits inClass rest

/-- The text without underscores. -/
def dropUnderscores (t : Text) : Text := t.filter (· ≠ '_')

/-- The bases that a mark names. -/
def bases : List (Point × Nat) := [('x', 16), ('o', 8), ('b', 2)]

/-- The integer with a mark of its base at the head of a text, and what follows it. -/
def based? (t : Text) : Option (Value × Text) :=
  match t with
  | '0' :: mark :: rest => do
    let base ← bases.lookup mark
    let digits := spacedDigits (fun c => (Text.hexValue? c).any (· < base)) rest
    let n ← Text.inBase? base (dropUnderscores digits)
    return (.int n, rest.drop digits.length)
  | _ => none

/-- The whole part of a decimal number at the head of a text. -/
def wholePart (t : Text) : Text :=
  match t with
  | '0' :: _ => ['0']
  | _ => spacedDigits Point.isDigit t

/-- The point and the digits after it at the head of a text. -/
def fractionPart (t : Text) : Text :=
  match t with
  | '.' :: rest =>
    let digits := spacedDigits Point.isDigit rest
    if digits.isEmpty then [] else '.' :: digits
  | _ => []

/-- The exponent at the head of a text. -/
def exponentPart (t : Text) : Text :=
  match t with
  | c :: rest =>
    if c = 'e' ∨ c = 'E' then
      let sign := match rest with
        | '+' :: _ => ['+']
        | '-' :: _ => ['-']
        | _ => []
      let digits := spacedDigits Point.isDigit (rest.drop sign.length)
      if digits.isEmpty then [] else c :: (sign ++ digits)
    else []
  | [] => []

/-- The decimal number at the head of a text, and what follows it. -/
def decimal? (t : Text) : Option (Except Fault (Value × Text)) :=
  let (negative, body) := match t with
    | '-' :: rest => (true, rest)
    | '+' :: rest => (false, rest)
    | _ => (false, t)
  let whole := wholePart body
  if whole.isEmpty then none
  else
    let rest := body.drop whole.length
    let fraction := fractionPart rest
    let exponent := exponentPart (rest.drop fraction.length)
    let rest := rest.drop (fraction.length + exponent.length)
    if fraction.isEmpty && exponent.isEmpty then
      let digits := dropUnderscores whole
      if digits.length > digitLimit then some (.error (.tooManyDigits digits.length))
      else
        let n : Int := Binary64.plainDigits digits
        some (.ok (.int (if negative then -n else n), rest))
    else
      let written := Text.lowerLatin (dropUnderscores (whole ++ fraction ++ exponent))
      (Binary64.readUnsigned? negative written).map fun x => .ok (.float x, rest)

/-- The words for numbers without digits. -/
def numberWords : List (Text × Value) :=
  [("inf".text, .float (.infinite false)), ("nan".text, .float .nan),
   ("+inf".text, .float (.infinite false)), ("-inf".text, .float (.infinite true)),
   ("+nan".text, .float .nan), ("-nan".text, .float .nan)]

/-- The value of a word at the head of a text, and what follows it. -/
def word? (words : List (Text × Value)) (t : Text) : Option (Value × Text) :=
  words.findSome? fun (word, v) => (Text.after? word t).map (v, ·)

/-- The number at the head of a text, and what follows it. -/
def number? (t : Text) : Option (Except Fault (Value × Text)) :=
  match based? t with
  | some part => some (.ok part)
  | none => (decimal? t).or ((word? numberWords t).map .ok)

end Stencil.Toml
