import Stencil.Text.Basic

/-!
# Bytes

* **UTF-8** (`Text.ofUtf8?`): the text that a list of bytes encodes. Overlong forms, surrogates, numbers beyond U+10FFFF
  and incomplete forms are refused, so that no text is with halves.
* **No encoding** (`Text.encodeFault?`): what is said of a text with halves that has to be encoded.
* **Base 64** (`Base64.read?`): four characters write three bytes. Characters outside the alphabet are passed over, and
  equals signs fill up the last four characters and end the text.
-/

namespace Stencil

/-! ## UTF-8 -/

namespace Text

/-- The six bits of a continuation byte. -/
def continuation? (b : UInt8) : Option Nat :=
  if 0x80 ≤ b ∧ b < 0xC0 then some (b.toNat - 0x80) else none

/-- The character of a number that needs at least `least` to be written in so many bytes. -/
def scalar? (least n : Nat) : Option Point :=
  if least ≤ n ∧ n.isValidChar then some (Point.char (Char.ofNat n)) else none

/-- The text that the bytes encode. -/
def ofUtf8? : List UInt8 → Option Text
  | [] => some []
  | a :: rest =>
    if a < 0x80 then (Point.char (Char.ofNat a.toNat) :: ·) <$> ofUtf8? rest
    else if 0xC0 ≤ a ∧ a < 0xE0 then
      match rest with
      | b :: rest => do
        let y ← continuation? b
        let c ← scalar? 0x80 ((a.toNat - 0xC0) * 64 + y)
        return c :: (← ofUtf8? rest)
      | _ => none
    else if 0xE0 ≤ a ∧ a < 0xF0 then
      match rest with
      | b :: b' :: rest => do
        let y ← continuation? b
        let z ← continuation? b'
        let c ← scalar? 0x800 (((a.toNat - 0xE0) * 64 + y) * 64 + z)
        return c :: (← ofUtf8? rest)
      | _ => none
    else if 0xF0 ≤ a ∧ a < 0xF8 then
      match rest with
      | b :: b' :: b'' :: rest => do
        let y ← continuation? b
        let z ← continuation? b'
        let w ← continuation? b''
        let c ← scalar? 0x10000 ((((a.toNat - 0xF0) * 64 + y) * 64 + z) * 64 + w)
        return c :: (← ofUtf8? rest)
      | _ => none
    else none

/-! ## Texts without an encoding -/

/-- What keeps a text from being encoded: the halves at a place. -/
structure EncodeFault where
  place : Nat
  halves : Text
  deriving DecidableEq, Repr

/-- The wording of a fault. -/
def EncodeFault.message (f : EncodeFault) : Text :=
  let place := Text.ofNat f.place
  let found := match f.halves with
    | [p] => " '\\u".text ++ Text.hex 4 p.toNat ++ "' in position ".text ++ place
    | halves => "s in position ".text ++ place ++ "-".text ++ Text.ofNat (f.place + halves.length - 1)
  "'utf-8' codec can't encode character".text ++ found ++ ": surrogates not allowed".text

/-- The first halves of a text that have no bytes, where some kinds of halves may have bytes. -/
def encodeFault? (hasBytes : Point → Bool) (t : Text) : Option EncodeFault :=
  let before := t.takeWhile fun p => !p.isHalf || hasBytes p
  let rest := t.drop before.length
  if rest.isEmpty then none else some ⟨before.length, rest.takeWhile Point.isHalf⟩

end Text

/-! ## Base 64 -/

namespace Base64

/-- The number of a character of the alphabet. -/
def value? (c : Point) : Option Nat :=
  if 'A' ≤ c ∧ c ≤ 'Z' then some (c.toNat - 65)
  else if 'a' ≤ c ∧ c ≤ 'z' then some (c.toNat - 71)
  else if '0' ≤ c ∧ c ≤ '9' then some (c.toNat + 4)
  else if c = '+' then some 62
  else if c = '/' then some 63
  else none

/-- The bytes of the text from a place in four characters on, given the bits left over there and the equals signs since
the last character of the alphabet. A text that ends inside four characters writes no bytes. -/
def readFrom (place bits pads : Nat) : Text → Option (List UInt8)
  | [] => if place = 0 then some [] else none
  | c :: cs =>
    if c = '=' then
      if place < 2 then readFrom place bits pads cs
      else if 4 ≤ place + (pads + 1) then some []
      else readFrom place bits (pads + 1) cs
    else match value? c with
      | none => readFrom place bits pads cs
      | some v =>
        match place with
        | 0 => readFrom 1 v 0 cs
        | 1 => (readFrom 2 (v % 16) 0 cs).map (UInt8.ofNat (4 * bits + v / 16) :: ·)
        | 2 => (readFrom 3 (v % 4) 0 cs).map (UInt8.ofNat (16 * bits + v / 4) :: ·)
        | _ => (readFrom 0 0 0 cs).map (UInt8.ofNat (64 * bits + v) :: ·)

/-- The bytes that a text writes. -/
def read? (t : Text) : Option (List UInt8) := readFrom 0 0 0 t

end Base64

end Stencil
