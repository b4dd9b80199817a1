import Stencil.Text.Identifier
import Stencil.Text.Quoted

/-!
# Tokens of actions

* **Tokens** (`Token`): words, numbers, quoted texts and signs, and the ends of lines outside of brackets.
* **Numbers** (`afterNumber`) and **quoted texts** (`afterQuoted`): how far one reaches, or what is wrong with it.
* **Reading** (`Tokens.ofText`): the tokens up to the end of the text or up to the first fault (`TokenFault`).
-/

namespace Stencil.Action

/-! ## Faults -/

/-- The ways to write a number. -/
inductive Numerals where
  | binary
  | octal
  | decimal
  | hexadecimal
  | imaginary
  deriving DecidableEq, Repr

/-- The word for a way to write a number. -/
def Numerals.word : Numerals → Text
  | binary => "binary".text
  | octal => "octal".text
  | decimal => "decimal".text
  | hexadecimal => "hexadecimal".text
  | imaginary => "imaginary".text

/-- Why tokens end before the text. -/
inductive TokenFault where
  /-- The text ends within a bracket. -/
  | unclosed (bracket : Point) (line : Nat)
  /-- A line that is to go on in the next one does not end. The innermost open bracket stands in a line. -/
  | continued (open? : Option (Point × Nat))
  | unmatched (bracket : Point)
  /-- A bracket closes another one, which stands in some other line if one is given. -/
  | mismatched (closing opening : Point) (line : Option Nat)
  | tooManyBrackets
  | unterminated (triple : Bool) (line : Nat)
  | badNumber (numerals : Numerals)
  | badDigit (digit : Point) (numerals : Numerals)
  | leadingZeros
  | badCharacter (c : Point)
  deriving DecidableEq, Repr

/-- A character by its number. -/
def codePoint (c : Point) : Text := "U+".text ++ (Text.hex 4 c.toNat).map Point.toUpper

/-- The wording of a fault. -/
def TokenFault.message : TokenFault → Text
  | unclosed bracket _ => '\'' :: bracket :: "' was never closed".text
  | continued _ => "unexpected character after line continuation character".text
  | unmatched bracket => "unmatched '".text ++ [bracket, '\'']
  | mismatched closing opening line =>
    "closing parenthesis '".text ++ closing :: "' does not match opening parenthesis '".text ++ [opening, '\'']
      ++ (line.map fun n => " on line ".text ++ Text.ofNat n).getD []
  | tooManyBrackets => "too many nested parentheses".text
  | unterminated triple line =>
    "unterminated ".text ++ (if triple then "triple-quoted ".text else [])
      ++ "string literal (detected at line ".text ++ Text.ofNat line ++ ")".text
  | badNumber numerals => "invalid ".text ++ numerals.word ++ " literal".text
  | badDigit digit numerals =>
    "invalid digit '".text ++ digit :: "' in ".text ++ numerals.word ++ " literal".text
  | leadingZeros =>
    "leading zeros in decimal integer literals are not permitted; use an 0o prefix for octal integers".text
  | badCharacter c =>
    if Text.isPrintable c then "invalid character '".text ++ c :: "' (".text ++ codePoint c ++ ")".text
    else "invalid non-printable character ".text ++ codePoint c

/-- Whether a fault is one of the characters read, and not of what is missing after them. -/
def TokenFault.isImmediate : TokenFault → Bool
  | unclosed .. | continued .. => false
  | _ => true

/-! ## Words -/

/-- The characters that a word may hold. -/
def isWordChar (c : Point) : Bool := c.isAlphanum || c = '_' || 128 ≤ c.toNat

/-- The characters that a word may start with. -/
def isWordStart (c : Point) : Bool := isWordChar c && !c.isDigit

/-- The words with a meaning of their own. -/
def keywords : List Text :=
  ["False", "None", "True", "and", "as", "assert", "async", "await", "break", "class", "continue", "def", "del", "elif",
   "else", "except", "finally", "for", "from", "global", "if", "import", "in", "is", "lambda", "nonlocal", "not", "or",
   "pass", "raise", "return", "try", "while", "with", "yield"].map String.text

/-- The words that have a meaning in some places. Their first letters count as well. -/
def softKeywords : List Text := ["_", "case", "match"].map String.text

/-! ## Numbers -/

/-- Whether a word that may follow a number at once stands at the head of a text. -/
def startsWithConnective (t : Text) : Bool :=
  ["and", "else", "for", "or", "not"].any (fun word =>
      match Text.after? word.text t with
      | some rest => !rest.head?.any isWordChar
      | none => false)
    || ["if", "in", "is"].any fun word => word.text.isPrefixOf t

/-- The end of a number before a text. A letter of ASCII does not follow at once, save for a connective. -/
def endNumber (numerals : Numerals) (t : Text) : Except TokenFault Text :=
  if t.head?.any (fun c => isWordChar c && c.toNat < 128) && !startsWithConnective t then .error (.badNumber numerals)
  else .ok t

/-- What follows more digits. Between two digits a single line at the bottom may stand. -/
def afterDigits (isDigit : Point → Bool) (fault : Point → TokenFault) : Text → Except TokenFault Text
  | [] => .ok []
  | ['_'] => .error (fault '\n')
  | '_' :: c :: cs => if isDigit c then afterDigits isDigit fault cs else .error (fault c)
  | c :: cs => if isDigit c then afterDigits isDigit fault cs else .ok (c :: cs)

/-- What follows more decimal digits. -/
def afterDecimalDigits : Text → Except TokenFault Text := afterDigits Point.isDigit fun _ => .badNumber .decimal

/-- What follows a number in a base, after the mark of the base. -/
def afterBased (numerals : Numerals) (isDigit : Point → Bool) (t : Text) : Except TokenFault Text := do
  let fault (c : Point) : TokenFault :=
    if c.isDigit && numerals != .hexadecimal then .badDigit c numerals else .badNumber numerals
  let rest ← match t with
    | '_' :: c :: cs => if isDigit c then afterDigits isDigit fault cs else throw (fault c)
    | c :: cs => if isDigit c then afterDigits isDigit fault cs else throw (fault c)
    | [] => throw (fault '\n')
  match rest with
  | c :: _ => if c.isDigit then throw (fault c) else endNumber numerals rest
  | [] => return []

/-- What follows a number after its digits before the exponent. -/
def afterMantissa : Text → Except TokenFault Text
  | e :: t =>
    if e = 'e' ∨ e = 'E' then
      match t with
      | sign :: c :: cs =>
        if sign = '+' ∨ sign = '-' then
          if c.isDigit then do afterImaginary (← afterDecimalDigits cs) else .error (.badNumber .decimal)
        else if sign.isDigit then do afterImaginary (← afterDecimalDigits (c :: cs))
        else endNumber .decimal (e :: t)
      | [c] =>
        if c.isDigit then .ok []
        else if c = '+' ∨ c = '-' then .error (.badNumber .decimal)
        else endNumber .decimal (e :: t)
      | [] => endNumber .decimal (e :: t)
    else afterImaginary (e :: t)
  | [] => .ok []
where
  /-- What follows a number that may be imaginary. -/
  afterImaginary : Text → Except TokenFault Text
    | c :: t => if c = 'j' ∨ c = 'J' then endNumber .imaginary t else endNumber .decimal (c :: t)
    | [] => .ok []

/-- What follows a number after the point in it. -/
def afterPoint (t : Text) : Except TokenFault Text :=
  match t with
  | c :: cs => if c.isDigit then do afterMantissa (← afterDecimalDigits cs) else afterMantissa t
  | [] => .ok []

/-- What follows zeros. -/
def afterZeros : Text → Except TokenFault Text
  | '_' :: c :: cs =>
    if !c.isDigit then .error (.badNumber .decimal) else if c = '0' then afterZeros cs else .ok (c :: cs)
  | ['_'] => .error (.badNumber .decimal)
  | '0' :: cs => afterZeros cs
  | t => .ok t

/-- What follows a number that starts with zero. An integer with other digits after the zero is none. -/
def afterZero (t : Text) : Except TokenFault Text := do
  let rest ← afterZeros t
  let nonzero := rest.head?.any Point.isDigit
  let rest ← if nonzero then afterDecimalDigits rest else pure rest
  match rest with
  | '.' :: cs => afterPoint cs
  | c :: _ =>
    if [Point.char 'e', 'E', 'j', 'J'].contains c then afterMantissa rest
    else if nonzero then throw .leadingZeros
    else endNumber .decimal rest
  | [] => if nonzero then throw .leadingZeros else return []

/-- What follows a number, given its first digit and the rest. -/
def afterNumber (digit : Point) (t : Text) : Except TokenFault Text :=
  if digit = '0' then
    match t with
    | c :: cs =>
      if c = 'x' ∨ c = 'X' then afterBased .hexadecimal (fun d => (Text.hexValue? d).isSome) cs
      else if c = 'o' ∨ c = 'O' then afterBased .octal (fun d => '0' ≤ d && d ≤ '7') cs
      else if c = 'b' ∨ c = 'B' then afterBased .binary (fun d => d = '0' || d = '1') cs
      else afterZero t
    | [] => .ok []
  else do
    match ← afterDecimalDigits t with
    | '.' :: cs => afterPoint cs
    | rest => afterMantissa rest

/-! ## Quoted texts -/

/-- The letters that may stand before a quote. -/
def quoteLetters : List Text := ["", "r", "u", "b", "f", "br", "rb", "fr", "rf"].map String.text

/-- The letters before a quote at the head of a text, the quote, and what follows it. -/
def quoteAt? (t : Text) : Option (Text × Point × Text) :=
  let letters := t.takeWhile Point.isAlpha
  match t.drop letters.length with
  | c :: cs =>
    if (c = '\'' ∨ c = '"') ∧ quoteLetters.contains (letters.map Point.toLower) then some (letters, c, cs) else none
  | [] => none

/-- Whether a quote comes three times, given what follows the first one. -/
def isTriple (quote : Point) (t : Text) : Bool := [quote, quote].isPrefixOf t

/-- What follows a quoted text and the number of its last line, or the line where it should have ended. -/
def afterQuoted (quote : Point) (triple : Bool) : Nat → Text → Except Nat (Text × Nat)
  | line, [] => .error line
  | line, [c] => if c = quote ∧ !triple then .ok ([], line) else .error line
  | line, '\\' :: c :: cs => afterQuoted quote triple (if c = '\n' then line + 1 else line) cs
  | line, c :: cs =>
    if c = quote ∧ !triple then .ok (cs, line)
    else if c = quote ∧ isTriple quote cs then .ok (cs.drop 2, line)
    else if c = '\n' then if triple then afterQuoted quote triple (line + 1) cs else .error line
    else afterQuoted quote triple line cs

/-! ## Tokens -/

/-- The kinds of tokens. -/
inductive TokenKind where
  | word
  | number
  | quoted
  | sign
  /-- The end of a line outside of brackets. -/
  | lineEnd
  /-- Blanks before the first token of a line, other than the first line. -/
  | indent
  | finish
  deriving DecidableEq, Repr

/-- A token. -/
structure Token where
  kind : TokenKind
  text : Text
  /-- The number of brackets that are open after it. -/
  depth : Nat
  line : Nat
  deriving DecidableEq, Repr

/-- The tokens of a text, and what is wrong where they end. -/
structure Tokens where
  tokens : List Token
  fault : Option TokenFault
  /-- Whether nothing follows the last token. -/
  atEnd : Bool
  deriving DecidableEq, Repr

namespace Token

/-- The letters before the quote of a token, in small letters. -/
def letters (t : Token) : Text := (t.text.takeWhile Point.isAlpha).map Point.toLower

/-- The text between the quotes of a token. -/
def content (t : Token) : Text :=
  let body := t.text.dropWhile Point.isAlpha
  let quotes := match body with
    | q :: cs => if isTriple q cs then 3 else 1
    | [] => 0
  (body.drop quotes).take (body.length - 2 * quotes)

/-- Whether a token in quotes stands for bytes. -/
def isBytes (t : Token) : Bool := t.letters.contains 'b'

/-- Whether a token in quotes is put together from expressions. -/
def isComposed (t : Token) : Bool := t.letters.contains 'f'

/-- Whether it takes the character after a token to know that the token ends. -/
def isOpenEnded (t : Token) : Bool := t.kind != .quoted && (t.kind != .sign || t.text.length < 3)

end Token

/-- How far a text has been read. -/
structure Scanner where
  rest : Text
  line : Nat := 1
  /-- The open brackets with their lines, the innermost first. -/
  brackets : List (Point × Nat) := []
  /-- Whether no token of the line has been read. -/
  atStart : Bool := true
  deriving DecidableEq, Repr

/-- Signs of more than one character. -/
def longSigns : List Text :=
  ["**=", "...", "//=", "<<=", ">>=", "!=", "%=", "&=", "**", "*=", "+=", "-=", "->", "//", "/=", ":=", "<<", "<=",
   "<>", "==", ">=", ">>", "@=", "^=", "|="].map String.text

/-- The sign at the head of a text. -/
def signAt (c : Point) (t : Text) : Text := (longSigns.find? (·.isPrefixOf (c :: t))).getD [c]

/-- The brackets, opening and closing. -/
def bracketPairs : List (Point × Point) := [('(', ')'), ('[', ']'), ('{', '}')]

/-- The most brackets that may be open. -/
def bracketLimit : Nat := 200

namespace Scanner

/-- A token that a text reaches up to, and the scanner after it. -/
def emit (s : Scanner) (kind : TokenKind) (rest : Text) : Token × Scanner :=
  let text := s.rest.take (s.rest.length - rest.length)
  (⟨kind, text, s.brackets.length, s.line⟩, { s with rest, atStart := false })

/-- The brackets that are open after a sign. -/
def bracketsAfter (s : Scanner) (c : Point) : Except TokenFault (List (Point × Nat)) := do
  if bracketPairs.any (·.1 = c) then
    if s.brackets.length < bracketLimit then return (c, s.line) :: s.brackets else throw .tooManyBrackets
  else match bracketPairs.find? (·.2 = c), s.brackets with
    | none, brackets => return brackets
    | some _, [] => throw (.unmatched c)
    | some (opening, _), (found, line) :: brackets =>
      if found = opening then return brackets
      else throw (.mismatched c found (if line = s.line then none else some line))

/-- The word at the head of the text, which is a name. -/
def word (s : Scanner) : Except TokenFault (Token × Scanner) :=
  let text := s.rest.takeWhile isWordChar
  match Text.strayCharacter? text with
  | some c => .error (.badCharacter c)
  | none => .ok (s.emit .word (s.rest.drop text.length))

/-- The quoted text at the head of the text, given its quote and what follows it. -/
def quoted (s : Scanner) (quote : Point) (inner : Text) : Except TokenFault (Token × Scanner) :=
  let triple := isTriple quote inner
  match afterQuoted quote triple s.line (if triple then inner.drop 2 else inner) with
  | .ok (rest, line) =>
    let (token, next) := s.emit .quoted rest
    .ok (token, { next with line })
  | .error line => .error (.unterminated triple line)

/-- The sign at the head of the text. -/
def sign (s : Scanner) (c : Point) (t : Text) : Except TokenFault (Token × Scanner) := do
  let brackets ← s.bracketsAfter c
  if !Text.isPrintable c then throw (.badCharacter c)
  return { s with brackets }.emit .sign (s.rest.drop (signAt c t).length)

/-- The token that starts with a character. -/
def token (s : Scanner) (c : Point) (t : Text) : Except TokenFault (Token × Scanner) := do
  match quoteAt? s.rest with
  | some (_, quote, inner) => s.quoted quote inner
  | none =>
    if isWordStart c then s.word
    else if c.isDigit then return s.emit .number (← afterNumber c t)
    else if c = '.' ∧ t.head?.any Point.isDigit then return s.emit .number (← afterPoint t)
    else s.sign c t

/-- Blanks between tokens. -/
def isGap (c : Point) : Bool := c = ' ' || c = '\t' || c = '\x0c'

/-- One step: perhaps a token, and the scanner after it, or the end. -/
def step (s : Scanner) : Except TokenFault (Option Token × Option Scanner) := do
  let rest := s.rest.dropWhile isGap
  let here := { s with rest }
  match rest with
  | [] =>
    match s.brackets with
    | (bracket, line) :: _ => throw (.unclosed bracket line)
    | [] => return (some ⟨.finish, [], 0, s.line⟩, none)
  | '#' :: cs => return (none, some { here with rest := cs.dropWhile (· ≠ '\n') })
  | '\n' :: cs =>
    let next := { here with rest := cs, line := s.line + 1, atStart := true }
    if s.atStart || !s.brackets.isEmpty then return (none, some next)
    else return (some ⟨.lineEnd, ['\n'], 0, s.line⟩, some next)
  | '\\' :: '\n' :: cs => return (none, some { here with rest := cs, line := s.line + 1 })
  | '\\' :: _ => throw (.continued s.brackets.head?)
  | c :: cs =>
    if s.atStart && s.brackets.isEmpty && rest.length < s.rest.length then
      return (some ⟨.indent, [], 0, s.line⟩, some { here with atStart := false })
    else
      let (token, next) ← here.token c cs
      return (some token, some next)

/-- The tokens of so many steps. -/
def tokens : Nat → Scanner → Tokens
  | 0, s => ⟨[], none, s.rest.isEmpty⟩
  | steps + 1, s =>
    match s.step with
    | .error fault => ⟨[], some fault, s.rest.isEmpty⟩
    | .ok (token, none) => ⟨token.toList, none, true⟩
    | .ok (token, some next) =>
      let more := tokens steps next
      { more with tokens := token.toList ++ more.tokens }

end Scanner

/-- The tokens of a text. Each step but the one of an indent and the last one reads a character. -/
def Tokens.ofText (t : Text) : Tokens :=
  let t := Text.normaliseNewlines t
  Scanner.tokens (2 * t.length + 2) { rest := t }

end Stencil.Action
