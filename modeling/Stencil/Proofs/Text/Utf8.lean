import Mathlib.Data.List.Basic
import Stencil.Text.Bytes

/-!
# Texts in UTF-8

* **Encoding** (`Text.utf8`): each character in one to four bytes. Decoding gives a text of characters back
  (`ofUtf8?_utf8`): a first byte tells the number of bytes, its low bits and those of the continuation bytes are the
  digits of the number of the character, and each form is long enough to be the only one of its characters.
-/

namespace Stencil.Text

/-- The bytes of a point, of which a half has none. -/
def pointBytes : Point → List UInt8
  | .char c => String.utf8EncodeChar c
  | .half _ => []

/-- The bytes of a text. -/
def utf8 (t : Text) : List UInt8 := t.flatMap pointBytes

/-- A byte with the mark of a continuation gives its six bits. -/
theorem continuation?_ofNat {n : Nat} (h : n < 64) : continuation? (UInt8.ofNat (n + 128)) = some n := by
  have hn : (UInt8.ofNat (n + 128)).toNat = n + 128 := UInt8.toNat_ofNat_of_lt (show n + 128 < 256 by omega)
  have hrange : 0x80 ≤ UInt8.ofNat (n + 128) ∧ UInt8.ofNat (n + 128) < 0xC0 := by
    rw [UInt8.le_iff_toNat_le, UInt8.lt_iff_toNat_lt, hn]
    simp
    omega
  rw [continuation?, if_pos hrange, hn, Nat.add_sub_cancel]

/-- The number of a character that needs so much room is the character. -/
theorem scalar?_eq {least n : Nat} {c : Char} (hle : least ≤ c.toNat) (hn : n = c.toNat) :
    scalar? least n = some (Point.char c) := by
  have hvalid : c.toNat.isValidChar := c.valid
  rw [hn, scalar?, if_pos ⟨hle, hvalid⟩, Char.ofNat_toNat]

/-! ## The four forms -/

section Forms

variable {a x y z : Nat} {c : Point} {bytes : List UInt8}

theorem ofUtf8?_one (ha : a < 0x80) :
    ofUtf8? (UInt8.ofNat a :: bytes) = (ofUtf8? bytes).map (Point.char (Char.ofNat a) :: ·) := by
  have hbyte : (UInt8.ofNat a).toNat = a := UInt8.toNat_ofNat_of_lt (show a < 256 by omega)
  have hlead : UInt8.ofNat a < 0x80 := by
    rw [UInt8.lt_iff_toNat_lt, hbyte]
    exact ha
  rw [ofUtf8?.eq_def]
  simp only [hlead, if_true, hbyte]
  rfl

theorem ofUtf8?_two (ha : a < 32) (hx : x < 64) (hc : scalar? 0x80 (a * 64 + x) = some c) :
    ofUtf8? (UInt8.ofNat (a + 192) :: UInt8.ofNat (x + 128) :: bytes) = (ofUtf8? bytes).map (c :: ·) := by
  have hbyte : (UInt8.ofNat (a + 192)).toNat = a + 192 := UInt8.toNat_ofNat_of_lt (show a + 192 < 256 by omega)
  have hlead : ¬ UInt8.ofNat (a + 192) < 0x80 ∧ 0xC0 ≤ UInt8.ofNat (a + 192) ∧ UInt8.ofNat (a + 192) < 0xE0 := by
    simp only [UInt8.lt_iff_toNat_lt, UInt8.le_iff_toNat_le, hbyte, UInt8.reduceToNat]
    omega
  rw [ofUtf8?, if_neg hlead.1, if_pos hlead.2]
  simp only [continuation?_ofNat hx, hbyte, Nat.add_sub_cancel, Option.bind_eq_bind, Option.bind_some, hc]
  exact Option.map_eq_bind.symm

theorem ofUtf8?_three (ha : a < 16) (hx : x < 64) (hy : y < 64)
    (hc : scalar? 0x800 ((a * 64 + x) * 64 + y) = some c) :
    ofUtf8? (UInt8.ofNat (a + 224) :: UInt8.ofNat (x + 128) :: UInt8.ofNat (y + 128) :: bytes)
      = (ofUtf8? bytes).map (c :: ·) := by
  have hbyte : (UInt8.ofNat (a + 224)).toNat = a + 224 := UInt8.toNat_ofNat_of_lt (show a + 224 < 256 by omega)
  have hlead : ¬ UInt8.ofNat (a + 224) < 0x80 ∧ ¬ (0xC0 ≤ UInt8.ofNat (a + 224) ∧ UInt8.ofNat (a + 224) < 0xE0) ∧
      0xE0 ≤ UInt8.ofNat (a + 224) ∧ UInt8.ofNat (a + 224) < 0xF0 := by
    simp only [UInt8.lt_iff_toNat_lt, UInt8.le_iff_toNat_le, hbyte, UInt8.reduceToNat]
    omega
  rw [ofUtf8?, if_neg hlead.1, if_neg hlead.2.1, if_pos hlead.2.2]
  simp only [continuation?_ofNat hx, continuation?_ofNat hy, hbyte, Nat.add_sub_cancel, Option.bind_eq_bind,
    Option.bind_some, hc]
  exact Option.map_eq_bind.symm

theorem ofUtf8?_four (ha : a < 8) (hx : x < 64) (hy : y < 64) (hz : z < 64)
    (hc : scalar? 0x10000 (((a * 64 + x) * 64 + y) * 64 + z) = some c) :
    ofUtf8? (UInt8.ofNat (a + 240) :: UInt8.ofNat (x + 128) :: UInt8.ofNat (y + 128) :: UInt8.ofNat (z + 128) :: bytes)
      = (ofUtf8? bytes).map (c :: ·) := by
  have hbyte : (UInt8.ofNat (a + 240)).toNat = a + 240 := UInt8.toNat_ofNat_of_lt (show a + 240 < 256 by omega)
  have hlead : ¬ UInt8.ofNat (a + 240) < 0x80 ∧ ¬ (0xC0 ≤ UInt8.ofNat (a + 240) ∧ UInt8.ofNat (a + 240) < 0xE0) ∧
      ¬ (0xE0 ≤ UInt8.ofNat (a + 240) ∧ UInt8.ofNat (a + 240) < 0xF0) ∧
      0xF0 ≤ UInt8.ofNat (a + 240) ∧ UInt8.ofNat (a + 240) < 0xF8 := by
    simp only [UInt8.lt_iff_toNat_lt, UInt8.le_iff_toNat_le, hbyte, UInt8.reduceToNat]
    omega
  rw [ofUtf8?, if_neg hlead.1, if_neg hlead.2.1, if_neg hlead.2.2.1, if_pos hlead.2.2.2]
  simp only [continuation?_ofNat hx, continuation?_ofNat hy, continuation?_ofNat hz, hbyte, Nat.add_sub_cancel,
    Option.bind_eq_bind, Option.bind_some, hc]
  exact Option.map_eq_bind.symm

end Forms

/-- A character is decoded before the bytes after it. -/
theorem ofUtf8?_encodeChar (c : Char) (bytes : List UInt8) :
    ofUtf8? (String.utf8EncodeChar c ++ bytes) = (ofUtf8? bytes).map (Point.char c :: ·) := by
  have hmax : c.toNat < 0x110000 := by
    have hvalid := c.valid
    simp only [UInt32.isValidChar, Nat.isValidChar] at hvalid
    simp only [Char.toNat]
    omega
  have hval : c.val.toNat = c.toNat := rfl
  unfold String.utf8EncodeChar
  simp only [hval]
  split
  · rw [List.singleton_append, ofUtf8?_one (by omega), Char.ofNat_toNat]
  split
  · exact ofUtf8?_two (by omega) (by omega) (scalar?_eq (by omega) (by omega))
  split
  · exact ofUtf8?_three (by omega) (by omega) (by omega) (scalar?_eq (by omega) (by omega))
  · exact ofUtf8?_four (by omega) (by omega) (by omega) (by omega) (scalar?_eq (by omega) (by omega))

/-- **The bytes of a text of characters encode the text.** -/
theorem ofUtf8?_utf8 {t : Text} (h : Scalar t) : ofUtf8? (utf8 t) = some t := by
  induction t with
  | nil => rfl
  | cons p ps ih =>
    obtain ⟨hp, hps⟩ := List.forall_mem_cons.1 h
    cases p with
    | char c =>
      have hcons : utf8 (c :: ps) = String.utf8EncodeChar c ++ utf8 ps := List.flatMap_cons
      rw [hcons, ofUtf8?_encodeChar, ih hps]
      rfl
    | half n => cases hp

end Stencil.Text
