import Stencil.Text.Bytes
import Stencil.Text.Lower
import Stencil.Value.Printed
import Stencil.Yaml.Cursor
import Stencil.Yaml.Tag

/-!
# YAML scalars

* **Scalars** (`Scalar`): what a scalar stands for. Dates, times and bytes are values known only by their texts
  (`Scalar.toValue`), but as keys of a mapping they are compared by what they are (`Scalar.sameKey`).
* **Reading** (`Scalar.read`): the scalar that a text writes as one of a type. Integers may be written in the bases two,
  eight and sixteen, and numbers in base sixty.
-/

namespace Stencil.Yaml

/-- What a scalar of a document stands for. -/
inductive Scalar where
  /-- Null, a truth value, a number or a text. -/
  | plain (v : Value)
  /-- What is not a number, by the node that it comes from; the word for it comes from none. -/
  | notANumber (node : Option Nat)
  | date (d : Date)
  | time (d : Date) (c : Clock)
  | bytes (bs : List UInt8)

namespace Scalar

/-- The form of the scalar inside a container. -/
def quoted : Scalar → Text
  | plain v => v.quotedForm.toOption.getD []
  | notANumber _ => Value.plainSpelling.nan
  | date d => d.quoted
  | time d c => quotedTime d c
  | bytes bs => Text.quotedBytes bs

/-- The value of the scalar. -/
def toValue : Scalar → Value
  | plain v => v
  | notANumber _ => .float .nan
  | date d => .foreign d.text
  | time d c => .foreign (d.text ++ " ".text ++ c.text)
  | bytes bs => .foreign (Text.quotedBytes bs)

/-- Whether the scalar counts as nothing. -/
def isEmpty : Scalar → Bool
  | plain v => v.isEmpty
  | bytes bs => bs.isEmpty
  | _ => false

/-- Whether two scalars are the same key. What is not a number is the same key as itself alone. -/
def sameKey : Scalar → Scalar → Bool
  | plain v, plain w => v.sameKey w
  | notANumber n, notANumber m => n == m
  | date d, date d' => d == d'
  | time d c, time d' c' => isSameTime d c d' c'
  | bytes bs, bytes bs' => bs == bs'
  | _, _ => false

/-! ## Numbers -/

/-- The text without underscores. -/
def dropUnderscores (t : Text) : Text := t.filter (· ≠ '_')

/-- The integer that a text writes in a base. -/
def integer (base : Nat) (t : Text) : Except Fault Int := (Numeral.integer base t).mapError .number

/-- The integer of a text that may name its base or be in base sixty. -/
def readInt (t : Text) : Except Fault Int := do
  let t := dropUnderscores t
  if t.isEmpty then throw .emptyNumber
  let (negative, body) := Numeral.splitSign t
  let n ← match body with
    | [] => throw .emptyNumber
    | ['0'] => pure 0
    | '0' :: 'b' :: digits => integer 2 digits
    | '0' :: 'x' :: digits => integer 16 digits
    | '0' :: _ => integer 8 body
    | _ =>
      if body.contains ':' then do
        let parts ← (Text.splitAt ':' body).mapM (integer 10)
        pure (parts.foldl (fun acc part => 60 * acc + part) 0)
      else integer 10 body
  return if negative then -n else n

/-- The floating point number that a text writes. -/
def decimal (t : Text) : Except Fault Binary64 := (Numeral.decimal t).mapError .number

/-- The sum of some parts of a number in base sixty, from the last one on, each times the power of its place. Every step
is rounded. -/
def sixtySum (place : Nat) (sum : Binary64) : List Binary64 → Except Fault Binary64
  | [] => .ok sum
  | part :: parts =>
    match Binary64.ofNat? place with
    | some power => sixtySum (60 * place) (sum.add (part.mul power)) parts
    | none => .error .hugePlace

/-- The floating point number of a text that may be in base sixty; none where the text is the word for what is not a
number. -/
def readFloat (t : Text) : Except Fault (Option Binary64) := do
  let t := Text.lower (dropUnderscores t)
  if t.isEmpty then throw .emptyNumber
  let (negative, body) := Numeral.splitSign t
  if body = ".nan".text then return none
  let x ←
    if body = ".inf".text then pure (Binary64.infinite false)
    else if body.contains ':' then do
      let parts ← (Text.splitAt ':' body).mapM decimal
      sixtySum 1 (.zero false) parts.reverse
    else decimal body
  return some (if negative then x.negate else x)

/-! ## Times -/

/-- The scalar of a written time. -/
def ofTime (w : WrittenTime) : Except CalendarFault Scalar := do
  match w.clock with
  | none => return date (← Date.of w.year w.month w.day)
  | some k =>
    checkOffset k.offset
    let d ← Date.of w.year w.month w.day
    return time d (← Clock.of k.hour k.minute k.second k.microsecond k.offset)

/-! ## Reading -/

/-- The scalar that a text writes as one of a type, at a node. The marks of mappings write none. -/
def read (tag : Tag) (node : Nat) (t : Text) : Except Fault Scalar :=
  match tag with
  | .null => .ok (plain .null)
  | .bool =>
    let word := Text.lower t
    match boolWords.lookup word with
    | some b => .ok (plain (.bool b))
    | none => .error (.noTruthValue word)
  | .int => (readInt t).map fun n => plain (.int n)
  | .float => (readFloat t).map fun
    | none => notANumber none
    | some .nan => notANumber (some node)
    | some x => plain (.float x)
  | .binary =>
    match if t.all (·.toNat < 128) then Base64.read? t else none with
    | some bs => .ok (bytes bs)
    | none => .error .malformed
  | .timestamp =>
    match writtenTime? (withoutFinalNewline t) with
    | some w => (ofTime w).mapError .calendar
    | none => .error .noTime
  | .text => .ok (plain (.str t))
  | _ => .error .malformed

end Scalar

end Stencil.Yaml
