import Stencil.Yaml.ScalarText

/-!
# YAML tokens

* **Tokens** (`Token`): the marks, properties and scalars of a text, with marks for the starts and ends of blocks that
  the text shows by indentation alone.
* **Keys**: whatever may be a key on one line is remembered, and a colon after it puts the key mark before it.
* **Scanning** (`TokenStream.ofText`): the tokens of a text from its start to its end, or those before a fault.
-/

namespace Stencil.Yaml

/-- A line that starts with a percent sign. -/
inductive Directive where
  | version (major : Nat)
  /-- A handle stands for the start of a tag. -/
  | handle (handle start : Text)
  | other
  deriving DecidableEq

/-- The parts of a text. -/
inductive Token where
  | directive (d : Directive)
  | documentStart
  | documentEnd
  | blockSequenceStart
  | blockMappingStart
  | blockEnd
  | flowSequenceStart
  | flowSequenceEnd
  | flowMappingStart
  | flowMappingEnd
  | blockEntry
  | flowEntry
  | key
  | value
  | alias (name : Text)
  | anchor (name : Text)
  | tag (handle : Option Text) (ending : Text)
  | scalar (plain : Bool) (text : Text)
  deriving DecidableEq

/-! ## Properties -/

/-- The characters of anchors, handles and the names of directives. -/
def isWordChar (c : Point) : Bool := c.isAlphanum || c = '-' || c = '_'

/-- The name of an anchor or alias after its mark, and the place after it. -/
def anchorName (c : Cursor) : Except Fault (Text × Cursor) :=
  let (name, c) := c.span isWordChar
  if name.isEmpty then .error .malformed
  else if isBlankOrEnd c.here || ("?:,]\x7d%@\x60".text).contains c.here then .ok (name, c)
  else .error .malformed

/-- The handle of a tag: one mark, or a word between two. -/
def tagHandle (c : Cursor) : Except Fault (Text × Cursor) :=
  if c.here ≠ '!' then .error .malformed
  else
    let (word, c') := c.next.span isWordChar
    if c'.here = '!' then .ok ('!' :: (word ++ [Point.char '!']), c'.next)
    else if c.peek 1 = ' ' then .ok (['!'], c.next)
    else .error .malformed

/-- The characters of a tag. -/
def isTagChar (c : Point) : Bool := c.isAlphanum || ("-;/?:@&=+$,_.!~*'()[]".text).contains c

/-- A byte written as a percent sign and two digits. -/
def escapedByte? (c : Cursor) : Option UInt8 :=
  if c.here = '%' ∧ 3 ≤ c.rest.length then (Text.inBase? 16 [c.peek 1, c.peek 2]).map UInt8.ofNat else none

/-- The bytes written by escapes at a place, and the place after them. -/
def escapedBytes (c : Cursor) (bytes : List UInt8) : Nat → Except Fault (List UInt8 × Cursor)
  | 0 => .error .malformed
  | fuel + 1 =>
    if c.here = '%' then
      match escapedByte? c with
      | some b => escapedBytes (c.forward 3) (bytes ++ [b]) fuel
      | none => .error .malformed
    else .ok (bytes, c)

/-- The text of a tag from a place on. -/
def tagText (c : Cursor) (text : Text) : Nat → Except Fault (Text × Cursor)
  | 0 => .error .malformed
  | fuel + 1 =>
    let (plain, c) := c.span isTagChar
    let text := text ++ plain
    if c.here = '%' then do
      let (bytes, c) ← escapedBytes c [] (c.rest.length + 1)
      match String.fromUTF8? ⟨bytes.toArray⟩ with
      | some s => tagText c (text ++ s.text) fuel
      | none => .error .malformed
    else if text.isEmpty then .error .malformed
    else .ok (text, c)

/-- A tag whose mark stands at the place. -/
def tagToken (c : Cursor) : Except Fault (Token × Cursor) := do
  let second := c.peek 1
  let (token, c) ←
    if second = '<' then do
      let (ending, c) ← tagText (c.forward 2) [] (c.rest.length + 1)
      if c.here ≠ '>' then throw .malformed
      pure (Token.tag none ending, c.next)
    else if isBlankOrEnd second then pure (Token.tag none ['!'], c.next)
    else do
      let word := c.next.rest.takeWhile fun ch => ch ≠ Point.char '!' && !isSpaceOrEnd ch
      let (handle, c) ←
        if (c.next.rest.drop word.length).head? = some (Point.char '!') then tagHandle c else pure (['!'], c.next)
      let (ending, c) ← tagText c [] (c.rest.length + 1)
      pure (Token.tag (some handle) ending, c)
  if isSpaceOrEnd c.here then return (token, c) else throw .malformed

/-! ## Directives -/

/-- The number of a version. -/
def versionNumber (c : Cursor) : Except Fault (Nat × Cursor) :=
  let (digits, c) := c.span Point.isDigit
  if digits.length > digitLimit then .error (.number (.tooManyDigits digits.length))
  else match Text.inBase? 10 digits with
    | some n => .ok (n, c)
    | none => .error .malformed

/-- A directive whose mark stands at the place. -/
def directiveToken (c : Cursor) : Except Fault (Token × Cursor) := do
  let (name, c) := c.next.span isWordChar
  if name.isEmpty || !isSpaceOrEnd c.here then throw .malformed
  let (d, c) ←
    if name = "YAML".text then do
      let (major, c) ← versionNumber (c.skipWhile (· = ' '))
      if c.here ≠ '.' then throw .malformed
      let (_, c) ← versionNumber c.next
      if !isSpaceOrEnd c.here then throw .malformed
      pure (Directive.version major, c)
    else if name = "TAG".text then do
      let (handle, c) ← tagHandle (c.skipWhile (· = ' '))
      if c.here ≠ ' ' then throw .malformed
      let (start, c) ← tagText (c.skipWhile (· = ' ')) [] (c.rest.length + 1)
      if !isSpaceOrEnd c.here then throw .malformed
      pure (Directive.handle handle start, c)
    else pure (Directive.other, c.skipWhile (!isBreakOrEnd ·))
  return (.directive d, ← c.skipIgnoredLine)

/-! ## The state of a scan -/

/-- Something that may turn out to be a key. -/
structure KeyCandidate where
  /-- The number of tokens before it. -/
  position : Nat
  /-- Whether nothing but a key may stand there. -/
  required : Bool
  index : Nat
  line : Nat
  column : Nat

/-- A scan on its way. -/
structure Scan where
  cursor : Cursor
  indent : Int
  indents : List Int
  flowLevel : Nat
  keyAllowed : Bool
  /-- The latest candidate of each flow level. -/
  candidates : List (Nat × KeyCandidate)
  tokens : Array Token
  done : Bool

namespace Scan

/-- The scan at the start of a text. -/
def start (t : Text) : Scan := ⟨.start t, -1, [], 0, true, [], #[], false⟩

/-- Adds a token. -/
def push (s : Scan) (t : Token) : Scan := { s with tokens := s.tokens.push t }

/-- Moves to a place. -/
def moveTo (s : Scan) (c : Cursor) : Scan := { s with cursor := c }

/-- Adds a token before those from a position on. -/
def insertAt (s : Scan) (position : Nat) (t : Token) : Scan :=
  { s with tokens := s.tokens.insertIdxIfInBounds position t }

/-- The place after blanks, comments and line breaks. Outside flow collections a new line allows a key. -/
def toNextToken (s : Scan) : Nat → Scan
  | 0 => s
  | fuel + 1 =>
    let c := s.cursor.skipWhile (· = ' ')
    let c := if c.here = '#' then c.skipWhile (!isBreakOrEnd ·) else c
    match c.takeBreak? with
    | some (_, c) =>
      toNextToken { s with cursor := c, keyAllowed := s.keyAllowed || s.flowLevel = 0 } fuel
    | none => s.moveTo c

/-- The most characters of a key. -/
def keyLimit : Nat := 1024

/-- Whether a candidate is too far behind. -/
def isStale (s : Scan) (k : KeyCandidate) : Bool :=
  k.line ≠ s.cursor.line || s.cursor.index - k.index > keyLimit

/-- Drops candidates that are too far behind. One that has to be a key must not be dropped. -/
def dropStale (s : Scan) : Except Fault Scan :=
  if s.candidates.any fun (_, k) => s.isStale k && k.required then .error .malformed
  else .ok { s with candidates := s.candidates.filter fun (_, k) => !s.isStale k }

/-- The candidate of the present flow level. -/
def candidate? (s : Scan) : Option KeyCandidate := s.candidates.lookup s.flowLevel

/-- Drops the candidate of the present flow level, which must not have to be a key. -/
def dropCandidate (s : Scan) : Except Fault Scan :=
  if (s.candidate?.map (·.required)).getD false then .error .malformed
  else .ok { s with candidates := s.candidates.filter (·.1 ≠ s.flowLevel) }

/-- Remembers the token to come as a candidate, where a key is allowed. -/
def saveCandidate (s : Scan) : Except Fault Scan := do
  if !s.keyAllowed then return s
  let required := s.flowLevel = 0 && s.indent = s.cursor.column
  let s ← s.dropCandidate
  let k : KeyCandidate := ⟨s.tokens.size, required, s.cursor.index, s.cursor.line, s.cursor.column⟩
  return { s with candidates := (s.flowLevel, k) :: s.candidates }

/-- Ends the blocks that are indented more than a column. -/
def unwindTo (s : Scan) (column : Int) : List Int → Scan
  | [] => s
  | outer :: rest =>
    if s.flowLevel = 0 ∧ s.indent > column then
      unwindTo { s with indent := outer, indents := rest, tokens := s.tokens.push .blockEnd } column rest
    else s

/-- Ends the blocks that are indented more than a column. -/
def unwind (s : Scan) (column : Int) : Scan := s.unwindTo column s.indents

/-- Starts a block at a column, if it is further in than the present one; the mark goes before a position. -/
def openBlock (s : Scan) (column : Nat) (position : Nat) (mark : Token) : Scan :=
  if s.indent < column then
    ({ s with indent := column, indents := s.indent :: s.indents }).insertAt position mark
  else s

/-! ## Fetching tokens -/

/-- Ends the blocks that are open before a mark that stands for itself at the start of a line. -/
def closeAll (s : Scan) : Except Fault Scan := do
  let s ← (s.unwind (-1)).dropCandidate
  return { s with keyAllowed := false }

/-- A mark of three characters between documents. -/
def fetchSeparator (s : Scan) (t : Token) : Except Fault Scan := do
  let s ← s.closeAll
  return (s.push t).moveTo (s.cursor.forward 3)

/-- The start of a flow collection. -/
def fetchFlowStart (s : Scan) (t : Token) : Except Fault Scan := do
  let s ← s.saveCandidate
  return { s with
    flowLevel := s.flowLevel + 1
    keyAllowed := true
    cursor := s.cursor.next
    tokens := s.tokens.push t }

/-- The end of a flow collection. -/
def fetchFlowEnd (s : Scan) (t : Token) : Except Fault Scan := do
  let s ← s.dropCandidate
  return { s with
    flowLevel := s.flowLevel - 1
    keyAllowed := false
    cursor := s.cursor.next
    tokens := s.tokens.push t }

/-- A comma in a flow collection. -/
def fetchFlowEntry (s : Scan) : Except Fault Scan := do
  let s ← s.dropCandidate
  return { s with keyAllowed := true, cursor := s.cursor.next, tokens := s.tokens.push .flowEntry }

/-- The mark of an entry of a block sequence. -/
def fetchBlockEntry (s : Scan) : Except Fault Scan := do
  if s.flowLevel = 0 && !s.keyAllowed then throw .malformed
  let s := if s.flowLevel = 0 then s.openBlock s.cursor.column s.tokens.size .blockSequenceStart else s
  let s ← s.dropCandidate
  return { s with keyAllowed := true, cursor := s.cursor.next, tokens := s.tokens.push .blockEntry }

/-- The mark of a key. -/
def fetchKey (s : Scan) : Except Fault Scan := do
  if s.flowLevel = 0 && !s.keyAllowed then throw .malformed
  let s := if s.flowLevel = 0 then s.openBlock s.cursor.column s.tokens.size .blockMappingStart else s
  let s ← s.dropCandidate
  return { s with keyAllowed := s.flowLevel = 0, cursor := s.cursor.next, tokens := s.tokens.push .key }

/-- The mark of a value: what was remembered last becomes its key. -/
def fetchValue (s : Scan) : Except Fault Scan := do
  match s.candidate? with
  | some k =>
    let s := { s with candidates := s.candidates.filter (·.1 ≠ s.flowLevel) }
    let s := s.insertAt k.position .key
    let s := if s.flowLevel = 0 then s.openBlock k.column k.position .blockMappingStart else s
    return { s with keyAllowed := false, cursor := s.cursor.next, tokens := s.tokens.push .value }
  | none =>
    if s.flowLevel = 0 && !s.keyAllowed then throw .malformed
    let s := if s.flowLevel = 0 then s.openBlock s.cursor.column s.tokens.size .blockMappingStart else s
    let s ← s.dropCandidate
    return { s with keyAllowed := s.flowLevel = 0, cursor := s.cursor.next, tokens := s.tokens.push .value }

/-- A token that may start a key, read from the present place. -/
def fetchKeyPart (s : Scan) (read : Cursor → Except Fault (Token × Cursor)) : Except Fault Scan := do
  let s ← s.saveCandidate
  let (t, c) ← read s.cursor
  return { s with keyAllowed := false, cursor := c, tokens := s.tokens.push t }

/-- A plain scalar. One that ends on a new line allows a key after it. -/
def fetchPlain (s : Scan) : Except Fault Scan := do
  let s ← s.saveCandidate
  let (text, c, crossed) := plainScalar (s.flowLevel ≠ 0) (s.indent + 1) s.cursor
  return { s with keyAllowed := crossed, cursor := c, tokens := s.tokens.push (.scalar true text) }

/-- A block scalar. -/
def fetchBlockScalar (s : Scan) (isFolded : Bool) : Except Fault Scan := do
  let s ← s.dropCandidate
  let (text, c) ← blockScalar isFolded s.indent s.cursor
  return { s with keyAllowed := true, cursor := c, tokens := s.tokens.push (.scalar false text) }

/-- Whether a plain scalar may start at a place. -/
def startsPlain (inFlow : Bool) (c : Cursor) : Bool :=
  let ch := c.here
  !(isBlankOrEnd ch || ("-?:,[]\x7b\x7d#&*!|>'\"%@\x60".text).contains ch)
    || (!isBlankOrEnd (c.peek 1) && (ch = '-' || (!inFlow && (ch = '?' || ch = ':'))))

/-- The next token, or the end of the scan. -/
def fetch (s : Scan) : Except Fault Scan := do
  let s ← (s.toNextToken (s.cursor.rest.length + 1)).dropStale
  let s := s.unwind s.cursor.column
  let c := s.cursor
  let inFlow : Bool := s.flowLevel ≠ 0
  let blankNext := isBlankOrEnd (c.peek 1)
  let atMark (mark : Text) : Bool := c.column = 0 && c.rest.take 3 = mark && isBlankOrEnd (c.peek 3)
  if c.here = endChar then
    let s ← s.closeAll
    return { s with done := true }
  else if c.here = '%' && c.column = 0 then
    let s ← s.closeAll
    let (t, c) ← directiveToken s.cursor
    return (s.push t).moveTo c
  else if atMark ['-', '-', '-'] then s.fetchSeparator .documentStart
  else if atMark ['.', '.', '.'] then s.fetchSeparator .documentEnd
  else match c.here with
  | '[' => s.fetchFlowStart .flowSequenceStart
  | '{' => s.fetchFlowStart .flowMappingStart
  | ']' => s.fetchFlowEnd .flowSequenceEnd
  | '}' => s.fetchFlowEnd .flowMappingEnd
  | ',' => s.fetchFlowEntry
  | '*' => s.fetchKeyPart fun c => (anchorName c.next).map fun (name, c) => (.alias name, c)
  | '&' => s.fetchKeyPart fun c => (anchorName c.next).map fun (name, c) => (.anchor name, c)
  | '!' => s.fetchKeyPart tagToken
  | '\'' => s.fetchKeyPart fun c => (quotedScalar false c).map fun (text, c) => (.scalar false text, c)
  | '"' => s.fetchKeyPart fun c => (quotedScalar true c).map fun (text, c) => (.scalar false text, c)
  | ch =>
    if ch = '-' && blankNext then s.fetchBlockEntry
    else if ch = '?' && (inFlow || blankNext) then s.fetchKey
    else if ch = ':' && (inFlow || blankNext) then s.fetchValue
    else if ch = '|' && !inFlow then s.fetchBlockScalar false
    else if ch = '>' && !inFlow then s.fetchBlockScalar true
    else if startsPlain inFlow c then s.fetchPlain
    else throw .malformed

/-- The number of tokens before the first one that a token to come may still precede. -/
def settled (s : Scan) : Nat :=
  (s.candidates.filter fun (_, k) => !s.isStale k).foldl (fun least (_, k) => min least k.position) s.tokens.size

end Scan

/-! ## Streams -/

/-- The tokens of a text. A fault of the text comes after the tokens that are certain before it is met. -/
structure TokenStream where
  tokens : List Token
  fault : Option Fault

namespace Scan

/-- Fetches tokens to the end of the text or a fault. -/
def run (s : Scan) : Nat → TokenStream
  | 0 => ⟨[], some .malformed⟩
  | fuel + 1 =>
    match s.fetch with
    | .error f => ⟨s.tokens.toList.take s.settled, some f⟩
    | .ok s => if s.done then ⟨s.tokens.toList, none⟩ else s.run fuel

end Scan

/-- The characters that a text may hold. -/
def isAllowed (c : Point) : Bool :=
  let n := c.toNat
  n = 9 || n = 10 || n = 13 || (0x20 ≤ n && n ≤ 0x7E) || n = 0x85 || (0xA0 ≤ n && n ≤ 0xFFFD) || 0x10000 ≤ n

/-- The tokens of a text. A byte order mark at its start is passed over. -/
def TokenStream.ofText (t : Text) : TokenStream :=
  if t.all isAllowed then
    let s := Scan.start t
    let s := if s.cursor.here = '\uFEFF' then s.moveTo s.cursor.next else s
    s.run (t.length + 2)
  else ⟨[], some .malformed⟩

end Stencil.Yaml
