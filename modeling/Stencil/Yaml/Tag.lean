import Stencil.Text.Basic

/-!
# YAML tags

* **Tags** (`Tag`): the types of nodes, by their names in a document (`Tag.ofName`).
* **Open scalars** (`Tag.ofText`): a scalar without a tag is a truth value, a number, a time, null or a mark of a
  mapping if its text has the form of one, and text otherwise. One newline at its end does not count.
-/

namespace Stencil.Yaml

/-- The types of nodes. -/
inductive Tag where
  | null
  | bool
  | int
  | float
  | binary
  | timestamp
  | text
  /-- A key that merges another mapping. -/
  | merge
  /-- The key for the value of a mapping as a whole. -/
  | whole
  | sequence
  | mapping
  | set
  | orderedMapping
  | pairs
  /-- A type that has no values. -/
  | other
  deriving DecidableEq, Repr

namespace Tag

/-- The start of the names of the types that come with the language. -/
def standardStart : Text := "tag:yaml.org,2002:".text

/-- The endings of these names. -/
def standardEndings : List (Text × Tag) :=
  [("null".text, null), ("bool".text, bool), ("int".text, int), ("float".text, float),
   ("binary".text, binary), ("timestamp".text, timestamp), ("str".text, text), ("merge".text, merge),
   ("value".text, whole), ("seq".text, sequence), ("map".text, mapping), ("set".text, set),
   ("omap".text, orderedMapping), ("pairs".text, pairs)]

/-- The type of a name. -/
def ofName (name : Text) : Tag :=
  match (Text.after? standardStart name).bind fun ending => standardEndings.lookup ending with
  | some tag => tag
  | none => other

/-- Whether the values of the type hold others. -/
def isCollection : Tag → Bool
  | sequence | mapping | set | orderedMapping | pairs => true
  | _ => false

end Tag

/-! ## Forms -/

/-- Decimal digits and the underscores between them. -/
def isSpacedDecimal (c : Point) : Bool := c.isDigit || c = '_'

/-- The text without a sign. -/
def unsigned : Text → Text
  | '+' :: cs => cs
  | '-' :: cs => cs
  | cs => cs

/-- The words for truth values, in small letters. -/
def boolWords : List (Text × Bool) :=
  [("yes".text, true), ("no".text, false), ("true".text, true), ("false".text, false),
   ("on".text, true), ("off".text, false)]

/-- The small, capitalised and capital forms of a word. -/
def caseForms (word : Text) : List Text :=
  [word, (word.take 1).map Point.toUpper ++ word.drop 1, word.map Point.toUpper]

/-- Whether a text is a word in one of its forms. -/
def isFormOf (word t : Text) : Bool := (caseForms word).contains t

/-- Whether a text starts with a decimal digit and goes on in a class. -/
def startsDecimal (inClass : Point → Bool) : Text → Bool
  | c :: cs => c.isDigit && cs.all inClass
  | [] => false

/-- Whether a text is empty or an exponent with a sign. -/
def isExponent : Text → Bool
  | [] => true
  | e :: s :: digits => (e = 'e' || e = 'E') && (s = '+' || s = '-') && !digits.isEmpty && digits.all Point.isDigit
  | _ => false

/-- Whether a text is a part of a number in base sixty. -/
def isSixtieth : Text → Bool
  | [a] => a.isDigit
  | [a, b] => '0' ≤ a && a ≤ '5' && b.isDigit
  | _ => false

/-- Whether a text is digits with a point, and perhaps an exponent. -/
def isPointed (t : Text) : Bool :=
  let whole := t.takeWhile isSpacedDecimal
  match t.drop whole.length with
  | '.' :: rest =>
    let fraction := rest.takeWhile isSpacedDecimal
    let tail := rest.drop fraction.length
    if whole.isEmpty then startsDecimal isSpacedDecimal fraction && isExponent tail
    else startsDecimal isSpacedDecimal whole && isExponent tail
  | _ => false

/-- Whether a text is a number in base sixty with a point in its last part. -/
def isSixtyPointed (t : Text) : Bool :=
  match Text.splitAt ':' t with
  | first :: rest =>
    match rest.getLast? with
    | some last =>
      let whole := last.takeWhile Point.isDigit
      startsDecimal isSpacedDecimal first && rest.dropLast.all isSixtieth && isSixtieth whole
        && (match last.drop whole.length with
          | '.' :: fraction => fraction.all isSpacedDecimal
          | _ => false)
    | none => false
  | [] => false

/-- Whether a text has the form of a floating point number. A number that starts with its point has no sign. -/
def isFloat (t : Text) : Bool :=
  let body := unsigned t
  (isPointed body && (body.head? ≠ some (Point.char '.') || t = body))
    || isSixtyPointed body
    || (match body with
      | '.' :: word =>
        isFormOf "inf".text word || (t = body && ["nan".text, "NaN".text, "NAN".text].contains word)
      | _ => false)

/-- Whether a text has the form of an integer. -/
def isInt (t : Text) : Bool :=
  match unsigned t with
  | ['0'] => true
  | '0' :: 'b' :: rest => !rest.isEmpty && rest.all fun c => c = '0' || c = '1' || c = '_'
  | '0' :: 'x' :: rest => !rest.isEmpty && rest.all fun c => (Text.hexValue? c).isSome || c = '_'
  | '0' :: rest => rest.all fun c => ('0' ≤ c && c ≤ '7') || c = '_'
  | body =>
    match Text.splitAt ':' body with
    | first :: rest => startsDecimal isSpacedDecimal first && rest.all isSixtieth
    | [] => false

/-! ## Times -/

/-- The number of one or two digits at the head of a text, and the rest. -/
def shortNumber? (least : Nat) (t : Text) : Option (Nat × Text) :=
  let digits := (t.takeWhile Point.isDigit).take 2
  if digits.length < least then none else (Text.inBase? 10 digits).map (·, t.drop digits.length)

/-- Blanks between the parts of a time. -/
def isGap (c : Point) : Bool := c = ' ' || c = '\t'

/-- The offset at the end of a time: none, that of the universal clock, or hours and perhaps minutes. -/
def offset? (t : Text) : Option (Option Int) :=
  let signed (sign : Int) (rest : Text) : Option (Option Int) := do
    let (hours, rest) ← shortNumber? 1 rest
    match rest with
    | [] => return some (sign * (60 * hours))
    | ':' :: rest =>
      let (minutes, rest) ← shortNumber? 2 rest
      if rest.isEmpty then return some (sign * (60 * hours + minutes)) else none
    | _ => none
  if t.isEmpty then some none
  else match t.dropWhile isGap with
    | ['Z'] => some (some 0)
    | '+' :: rest => signed 1 rest
    | '-' :: rest => signed (-1) rest
    | _ => none

/-- The six digits after the point of a second, as a number. -/
def microseconds (fraction : Text) : Nat :=
  let digits := fraction.take 6
  (Text.inBase? 10 (digits ++ List.replicate (6 - digits.length) (Point.char '0'))).getD 0

/-- A time of day as written. -/
structure WrittenClock where
  hour : Nat
  minute : Nat
  second : Nat
  microsecond : Nat
  /-- The minutes from the universal clock. -/
  offset : Option Int
  deriving DecidableEq, Repr

/-- A time as written: its date, and perhaps the time of day. -/
structure WrittenTime where
  year : Nat
  month : Nat
  day : Nat
  clock : Option WrittenClock
  deriving DecidableEq, Repr

/-- The time of day of a text. -/
def writtenClock? (t : Text) : Option WrittenClock := do
  let (hour, rest) ← shortNumber? 1 t
  let rest ← Text.after? [':'] rest
  let (minute, rest) ← shortNumber? 2 rest
  let rest ← Text.after? [':'] rest
  let (second, rest) ← shortNumber? 2 rest
  let (fraction, rest) := match rest with
    | '.' :: rest => (rest.takeWhile Point.isDigit, rest.dropWhile Point.isDigit)
    | rest => ([], rest)
  let offset ← offset? rest
  return ⟨hour, minute, second, microseconds fraction, offset⟩

/-- The time that a text writes. -/
def writtenTime? (t : Text) : Option WrittenTime := do
  let yearText := t.take 4
  if yearText.length < 4 || !yearText.all Point.isDigit then none
  let year ← Text.inBase? 10 yearText
  let rest ← Text.after? ['-'] (t.drop 4)
  let (month, rest) ← shortNumber? 1 rest
  let rest ← Text.after? ['-'] rest
  let (day, rest) ← shortNumber? 1 rest
  match rest with
  | [] => return ⟨year, month, day, none⟩
  | c :: cs =>
    if c = 'T' ∨ c = 't' then return ⟨year, month, day, some (← writtenClock? cs)⟩
    else if isGap c then return ⟨year, month, day, some (← writtenClock? (cs.dropWhile isGap))⟩
    else none

/-- The characters of a date whose month and day have two digits each. -/
def fullDateLength : Nat := 10

/-- Whether a text has the form of a time. A date alone has two digits for the month and for the day. -/
def isTime (t : Text) : Bool :=
  match writtenTime? t with
  | some w => w.clock.isSome || t.length = fullDateLength
  | none => false

/-! ## Open scalars -/

/-- The text without one newline at its end. -/
def withoutFinalNewline (t : Text) : Text := if Text.endsWith ['\n'] t then t.dropLast else t

/-- The type of an open scalar. -/
def Tag.ofText (source : Text) : Tag :=
  let t := withoutFinalNewline source
  if boolWords.any fun (word, _) => isFormOf word t then bool
  else if isFloat t then float
  else if isInt t then int
  else if t = [Point.char '<', '<'] then merge
  else if source = [] ∨ t = [Point.char '~'] ∨ isFormOf "null".text t then null
  else if isTime t then timestamp
  else if t = [Point.char '='] then whole
  else text

end Stencil.Yaml
