import Stencil.Yaml.Cursor

/-!
# The texts of scalars

* **Plain scalars** (`plainScalar`), **quoted scalars** (`quotedScalar`) and **block scalars** (`blockScalar`): the text
  that each style writes, and the place after it.
* A single line break inside a plain or quoted scalar reads as a space; each further one is kept. A folded block does
  the same between lines that do not start with a blank.
-/

namespace Stencil.Yaml

/-! ## Plain scalars -/

/-- Whether a plain scalar ends before the character at a distance. -/
def endsPlain (inFlow : Bool) (c : Cursor) (distance : Nat) : Bool :=
  let ch := c.peek distance
  let after := c.peek (distance + 1)
  isBlankOrEnd ch
    || (ch = ':' && (isBlankOrEnd after || (inFlow && (",[]\x7b\x7d".text).contains after)))
    || (inFlow && (",?[]\x7b\x7d".text).contains ch)

/-- The number of characters of a plain scalar from a distance on. -/
def plainLength (inFlow : Bool) (c : Cursor) (distance : Nat) : Nat → Nat
  | 0 => distance
  | fuel + 1 => if endsPlain inFlow c distance then distance else plainLength inFlow c (distance + 1) fuel

/-- The breaks and spaces at a place; none when a separator of documents follows a break. -/
def plainBreaks (c : Cursor) (breaks : Text) : Nat → Option (Text × Cursor)
  | 0 => some (breaks, c)
  | fuel + 1 =>
    if c.here = ' ' then plainBreaks c.next breaks fuel
    else match c.takeBreak? with
      | some (b, c) => if c.atSeparator then none else plainBreaks c (breaks ++ [b]) fuel
      | none => some (breaks, c)

/-- What stands for a first break and those after it. -/
def folded (first : Point) (breaks : Text) : Text :=
  (if first ≠ '\n' then [first] else if breaks.isEmpty then [' '] else []) ++ breaks

/-- The gap after a part of a plain scalar: its text, the place after it, and whether it crossed a line. No text means
that the scalar ends. -/
def plainGap (c : Cursor) : Text × Cursor × Bool :=
  let (spaces, c) := c.span (· = ' ')
  match c.takeBreak? with
  | some (first, c) =>
    if c.atSeparator then ([], c, true)
    else match plainBreaks c [] (c.rest.length + 1) with
      | some (breaks, c') => (folded first breaks, c', true)
      | none => ([], c, true)
  | none => (spaces, c, false)

/-- The parts of a plain scalar after the gap `gap`, and whether a gap crossed a line last. -/
def plainParts (inFlow : Bool) (indent : Int) (c : Cursor) (gap : Text) (text : Text) (crossed : Bool) :
    Nat → Text × Cursor × Bool
  | 0 => (text, c, crossed)
  | fuel + 1 =>
    if c.here = '#' then (text, c, crossed)
    else
      let length := plainLength inFlow c 0 (c.rest.length + 1)
      if length = 0 then (text, c, crossed)
      else
        let text := text ++ gap ++ c.rest.take length
        let (gap, c, crossed) := plainGap (c.forward length)
        if gap.isEmpty || c.here = '#' || (!inFlow && c.column < indent) then (text, c, crossed)
        else plainParts inFlow indent c gap text crossed fuel

/-- A plain scalar: its text, the place after it, and whether that is on a new line. -/
def plainScalar (inFlow : Bool) (indent : Int) (c : Cursor) : Text × Cursor × Bool :=
  plainParts inFlow indent c [] [] false (c.rest.length + 1)

/-! ## Quoted scalars -/

/-- The characters that end a stretch of a quoted scalar. -/
def endsStretch (c : Point) : Bool := c = '\'' || c = '"' || c = '\\' || isBlankOrEnd c

/-- The breaks and blanks at a place inside a quoted scalar. -/
def quotedBreaks (c : Cursor) (breaks : Text) : Nat → Except Fault (Text × Cursor)
  | 0 => .error .malformed
  | fuel + 1 =>
    if c.atSeparator then .error .malformed
    else
      let c := c.skipWhile fun ch => ch = ' ' || ch = '\t'
      match c.takeBreak? with
      | some (b, c) => quotedBreaks c (breaks ++ [b]) fuel
      | none => .ok (breaks, c)

/-- The character that an escape of one letter writes. -/
def escapeLetter? : Point → Option Point
  | '0' => some '\x00'
  | 'a' => some '\x07'
  | 'b' => some '\x08'
  | 't' => some '\t'
  | '\t' => some '\t'
  | 'n' => some '\n'
  | 'v' => some '\x0b'
  | 'f' => some '\x0c'
  | 'r' => some '\r'
  | 'e' => some '\x1b'
  | ' ' => some ' '
  | '"' => some '"'
  | '\\' => some '\\'
  | '/' => some '/'
  | 'N' => some '\x85'
  | '_' => some '\xa0'
  | 'L' => some '\u2028'
  | 'P' => some '\u2029'
  | _ => none

/-- The number of hexadecimal digits of an escape. -/
def escapeDigits? : Point → Option Nat
  | 'x' => some 2
  | 'u' => some 4
  | 'U' => some 8
  | _ => none

/-- The text of an escape after its backslash, and the place after it. -/
def quotedEscape (c : Cursor) : Except Fault (Text × Cursor) :=
  match escapeLetter? c.here, escapeDigits? c.here, c.takeBreak? with
  | some ch, _, _ => .ok ([ch], c.next)
  | none, some width, _ =>
    let c := c.next
    match Text.inBase? 16 (c.rest.take width) with
    | some n =>
      if c.rest.length < width then .error .malformed
      else if n > 0x7FFFFFFF then .error .hugeCharacter
      else if n > 0x10FFFF then .error .noCharacter
      else .ok ([Point.ofNat n], c.forward width)
    | none => .error .malformed
  | none, none, some (_, c) => quotedBreaks c [] (c.rest.length + 1)
  | none, none, none => .error .malformed

/-- The text of a quoted scalar from a place on, and the place of the closing quote. -/
def quotedParts (double : Bool) (c : Cursor) (text : Text) : Nat → Except Fault (Text × Cursor)
  | 0 => .error .malformed
  | fuel + 1 =>
    let quote := if double then '"' else '\''
    let (stretch, c) := c.span (!endsStretch ·)
    let text := text ++ stretch
    let ch := c.here
    if !double && ch = '\'' && c.peek 1 = '\'' then quotedParts double (c.forward 2) (text ++ [Point.char '\'']) fuel
    else if ch = quote then .ok (text, c)
    else if double && ch = '\\' then do
      let (escaped, c) ← quotedEscape c.next
      quotedParts double c (text ++ escaped) fuel
    else if ch = '\'' || ch = '"' || ch = '\\' then quotedParts double c.next (text ++ [ch]) fuel
    else
      let (blanks, c) := c.span fun ch => ch = ' ' || ch = '\t'
      if c.here = endChar then .error .malformed
      else match c.takeBreak? with
        | some (first, c) => do
          let (breaks, c) ← quotedBreaks c [] (c.rest.length + 1)
          quotedParts double c (text ++ folded first breaks) fuel
        | none => quotedParts double c (text ++ blanks) fuel

/-- A quoted scalar: its text, and the place after the closing quote. -/
def quotedScalar (double : Bool) (c : Cursor) : Except Fault (Text × Cursor) := do
  let (text, c) ← quotedParts double c.next [] (c.rest.length + 2)
  return (text, c.next)

/-! ## Block scalars -/

/-- What a block does with the breaks at its end. -/
inductive Chomping where
  | strip
  | clip
  | keep
  deriving DecidableEq

/-- The meaning of a chomping mark. -/
def chomping? : Point → Option Chomping
  | '+' => some .keep
  | '-' => some .strip
  | _ => none

/-- The meaning of an indentation mark. -/
def increment? (c : Point) : Option Nat := if c.isDigit then some (c.toNat - 48) else none

/-- The marks in the head of a block, in either order. -/
def blockMarks (c : Cursor) : Except Fault (Chomping × Option Nat × Cursor) :=
  let (chomp, increment, c) := match chomping? c.here, increment? c.here with
    | some chomp, _ =>
      match increment? (c.peek 1) with
      | some n => (chomp, some n, c.forward 2)
      | none => (chomp, none, c.next)
    | none, some n =>
      match chomping? (c.peek 1) with
      | some chomp => (chomp, some n, c.forward 2)
      | none => (.clip, some n, c.next)
    | none, none => (.clip, none, c)
  if increment = some 0 || !isSpaceOrEnd c.here then .error .malformed else .ok (chomp, increment, c)

/-- The place after spaces up to a column. -/
def skipIndent (c : Cursor) (column : Nat) : Nat → Cursor
  | 0 => c
  | fuel + 1 => if c.column < column ∧ c.here = ' ' then skipIndent c.next column fuel else c

/-- The breaks of empty lines, with at most so much indentation each. -/
def blockBreaks (indent : Nat) (c : Cursor) (breaks : Text) : Nat → Text × Cursor
  | 0 => (breaks, c)
  | fuel + 1 =>
    let c := skipIndent c indent indent
    match c.takeBreak? with
    | some (b, c) => blockBreaks indent c (breaks ++ [b]) fuel
    | none => (breaks, c)

/-- The breaks of the empty lines at the start of a block, the widest indentation in them and before the first text,
and the place of that text. -/
def blockIndent (c : Cursor) (breaks : Text) (widest : Nat) : Nat → Text × Nat × Cursor
  | 0 => (breaks, widest, c)
  | fuel + 1 =>
    if c.here = ' ' then blockIndent c.next breaks (max widest c.next.column) fuel
    else match c.takeBreak? with
      | some (b, c) => blockIndent c (breaks ++ [b]) widest fuel
      | none => (breaks, widest, c)

/-- The lines of a block from one on: the text up to the break of the last one, that break, and the breaks after it. -/
def blockLines (isFolded : Bool) (indent : Nat) (c : Cursor) (breaks text : Text) :
    Nat → Text × Text × Text × Cursor
  | 0 => (text, [], breaks, c)
  | fuel + 1 =>
    let startsBlank := c.here = ' ' || c.here = '\t'
    let (line, c) := c.span (!isBreakOrEnd ·)
    let text := text ++ breaks ++ line
    let (lineBreak, c) := match c.takeBreak? with
      | some (b, c) => ([b], c)
      | none => ([], c)
    let (breaks, c) := blockBreaks indent c [] (c.rest.length + 1)
    if c.column = indent && c.here ≠ endChar then
      let joined :=
        if isFolded && lineBreak = [Point.char '\n'] && !startsBlank && c.here ≠ ' ' && c.here ≠ '\t' then
          (if breaks.isEmpty then [Point.char ' '] else [])
        else lineBreak
      blockLines isFolded indent c breaks (text ++ joined) fuel
    else (text, lineBreak, breaks, c)

/-- A block scalar whose mark stands at the place, inside nodes of an indentation: its text, and the place after it. -/
def blockScalar (isFolded : Bool) (outer : Int) (c : Cursor) : Except Fault (Text × Cursor) := do
  let (chomp, increment, c) ← blockMarks c.next
  let c ← c.skipIgnoredLine
  let least := (max (outer + 1) 1).toNat
  let (indent, breaks, c) := match increment with
    | some n =>
      let indent := least + n - 1
      let (breaks, c) := blockBreaks indent c [] (c.rest.length + 1)
      (indent, breaks, c)
    | none =>
      let (breaks, widest, c) := blockIndent c [] 0 (c.rest.length + 1)
      (max least widest, breaks, c)
  let (text, lineBreak, breaks, c) :=
    if c.column = indent && c.here ≠ endChar then blockLines isFolded indent c breaks [] (c.rest.length + 1)
    else ([], [], breaks, c)
  let ending := match chomp with
    | .strip => []
    | .clip => lineBreak
    | .keep => lineBreak ++ breaks
  return (text ++ ending, c)

end Stencil.Yaml
