import Stencil.Slots
import Stencil.Proofs.Markup.Shape
import Stencil.Proofs.Text.Local

/-!
# Tokens in a text

* A token is read back with its number, whatever follows it (`slotDigits?_slotToken`, `decimalValue?_ofNat`); nothing
  else is read (`slotDigits?_eq_some_iff`).
* **Issued texts** (`Issued`): every slot character belongs to a token with a number below a bound. There each token
  is one piece and all else are characters, so that a text after it is filled on its own (`fill_slotToken_append`).
* **Unread texts** (`Unread`): a text before another one in which no token starts, so that filling leaves it as it is.
  A text is unread without the opening slot character (`unread_of_not_open`), and also without the closing one where
  no closing slot character comes first after digits (`unread_of_not_close`).
-/

namespace Stencil

open Markup (Plain)
open Text (BraceFree)

/-! ## Digits -/

namespace Text

theorem digitValue?_of_isDigit {c : Point} (h : c.isDigit = true) : digitValue? c = some (c.toNat - 48) := by
  have hr : 48 ≤ c.toNat ∧ c.toNat < 58 := (Point.isDigit_iff.1 h).imp_right Nat.lt_succ_of_le
  simp [digitValue?, zeroDigits, hr.1, hr.2]

theorem isDigit_of_isDigit {c : Point} (h : c.isDigit = true) : isDigit c = true := by
  simp [isDigit, digitValue?_of_isDigit h]

theorem isDigit_ofNat {n : Nat} {c : Point} (hc : c ∈ ofNat n) : c.isDigit = true := by
  obtain ⟨d, hd, rfl⟩ := List.mem_map.1 hc
  exact Nat.isDigit_of_mem_toDigits (by omega) (by omega) hd

theorem ofNat_ne_nil (n : Nat) : ofNat n ≠ [] := by
  rw [ofNat, Ne, List.map_eq_nil_iff]
  exact Nat.toDigits_ne_nil

theorem decimalFrom_eq : ∀ (ds : List Char) (acc : Nat), (∀ c ∈ ds, c.isDigit = true) →
    decimalFrom acc (ds.map Point.char) = some (Nat.ofDigitChars 10 ds acc)
  | [], _, _ => by simp [decimalFrom]
  | c :: cs, acc, h => by
    have hc := digitValue?_of_isDigit (c := c) (h c (by simp))
    rw [List.map_cons, decimalFrom, hc, Option.bind_some, decimalFrom_eq cs _ fun x hx => h x (by simp [hx])]
    rfl

/-- The digits of a number write the number. -/
theorem decimalValue?_ofNat (n : Nat) : decimalValue? (ofNat n) = some n := by
  have hdigits : ∀ x ∈ Nat.toDigits 10 n, x.isDigit = true :=
    fun x hx => Nat.isDigit_of_mem_toDigits (by omega) (by omega) hx
  obtain ⟨c, cs, hcs⟩ := List.exists_cons_of_ne_nil (Nat.toDigits_ne_nil (n := n) (b := 10))
  rw [hcs] at hdigits
  have hread := decimalFrom_eq _ 0 hdigits
  rw [← hcs, Nat.ofDigitChars_ten_toDigits] at hread
  rw [ofNat, hcs]
  rwa [hcs] at hread

/-- A number below a power of ten has no more digits than the power. -/
theorem length_ofNat_le_of_lt_pow {n k : Nat} (hk : 0 < k) (h : n < Nat.pow 10 k) : (ofNat n).length ≤ k := by
  rw [ofNat, List.length_map]
  exact (Nat.length_toDigits_le_iff (by omega) hk).2 h

end Text

/-- The least number with more digits than the limit. -/
def digitBound : Nat := Nat.pow 10 digitLimit

theorem digitBound_pos : 0 < digitBound := by
  have hpos : ∀ k, 0 < Nat.pow 10 k := fun _ => Nat.pow_pos (by omega)
  unfold digitBound
  apply hpos

theorem ten_le_digitBound : 10 ≤ digitBound := by
  have hten : ∀ k, 10 ≤ Nat.pow 10 (k + 1) := fun k => Nat.le_mul_of_pos_left 10 (Nat.pow_pos (by omega))
  unfold digitBound
  apply hten

theorem Text.length_ofNat_le {n : Nat} (h : n < digitBound) : (ofNat n).length ≤ digitLimit := by
  unfold digitBound at h
  apply length_ofNat_le_of_lt_pow _ h
  decide

/-- Digits are no braces and no slot characters. -/
theorem plain_ofNat (n : Nat) : Plain (Text.ofNat n) := by
  intro c hc
  have hd : c.isDigit = true := Text.isDigit_ofNat hc
  rw [Bool.eq_false_iff]
  intro hm
  simp only [Markup.isMarkupChar, Bool.or_eq_true, decide_eq_true_eq] at hm
  rcases hm with ((rfl | rfl) | rfl) | rfl <;> revert hd <;> decide

theorem braceFree_slotToken (i : Nat) : BraceFree (slotToken i) := by
  intro c hc
  rcases List.mem_cons.1 hc with rfl | hc
  · decide
  · rcases List.mem_append.1 hc with hc | hc
    · exact (plain_ofNat i).braceFree c hc
    · rw [List.mem_singleton.1 hc]
      decide

/-! ## Reading tokens -/

theorem slotDigits?_of_head {c : Point} (hc : c ≠ slotOpen) (t : Text) : slotDigits? (c :: t) = none := by
  simp [slotDigits?, hc]

theorem isDigit_slotOpen : Text.isDigit slotOpen = false := by decide

theorem isDigit_slotClose : Text.isDigit slotClose = false := by decide

/-- Digits between the two characters are read as a token. -/
theorem slotDigits?_digits {digits : Text} (hne : digits ≠ []) (hdigits : ∀ c ∈ digits, Text.isDigit c = true)
    (t : Text) : slotDigits? (slotOpen :: (digits ++ slotClose :: t)) = some (digits, digits.length + 2) := by
  have htake : (digits ++ slotClose :: t).takeWhile Text.isDigit = digits := by
    rw [List.takeWhile_append_of_pos hdigits]
    simp [isDigit_slotClose]
  have hdrop : (digits ++ slotClose :: t).dropWhile Text.isDigit = slotClose :: t := by
    rw [List.dropWhile_append_of_pos hdigits]
    simp [isDigit_slotClose]
  obtain ⟨c, cs, rfl⟩ := List.exists_cons_of_ne_nil hne
  rw [slotDigits?]
  simp only [if_true, htake, hdrop]

/-- A token is read back. -/
theorem slotDigits?_slotToken (i : Nat) (t : Text) :
    slotDigits? (slotToken i ++ t) = some (Text.ofNat i, (slotToken i).length) := by
  have hdigits : ∀ c ∈ Text.ofNat i, Text.isDigit c = true := fun c hc =>
    Text.isDigit_of_isDigit (Text.isDigit_ofNat hc)
  have hwritten : slotToken i ++ t = slotOpen :: (Text.ofNat i ++ slotClose :: t) := by simp [slotToken]
  have hlength : (slotToken i).length = (Text.ofNat i).length + 2 := by simp [slotToken]
  rw [hwritten, hlength]
  exact slotDigits?_digits (Text.ofNat_ne_nil _) hdigits t

/-- **Tokens are read where they are written.** -/
theorem slotDigits?_eq_some_iff {t digits : Text} {width : Nat} : slotDigits? t = some (digits, width) ↔
    digits ≠ [] ∧ (∀ c ∈ digits, Text.isDigit c = true) ∧ width = digits.length + 2 ∧
      ∃ rest, t = slotOpen :: (digits ++ [slotClose]) ++ rest := by
  constructor
  · intro h
    cases t with
    | nil => cases h
    | cons c cs =>
      rw [slotDigits?] at h
      split at h
      · rename_i hopen
        simp only at h
        split at h
        · rename_i d ds c' rest htake hdrop
          split at h
          · rename_i hclose
            cases h
            have hcs := List.takeWhile_append_dropWhile (p := Text.isDigit) (l := cs)
            have hdigits : ∀ x ∈ cs.takeWhile Text.isDigit, Text.isDigit x = true :=
              List.all_eq_true.1 List.all_takeWhile
            rw [hdrop, hclose] at hcs
            exact ⟨by simp [htake], hdigits, rfl, rest, by simp [hopen, hcs]⟩
          · cases h
        · cases h
      · cases h
  · rintro ⟨hne, hdigits, rfl, rest, rfl⟩
    simpa using slotDigits?_digits hne hdigits rest

/-- What is read is a token with its digits, as written. -/
theorem slotDigits?_eq_some {t digits : Text} {width : Nat} (h : slotDigits? t = some (digits, width)) :
    ∃ rest, t = slotOpen :: (digits ++ [slotClose]) ++ rest ∧ width = digits.length + 2 := by
  obtain ⟨-, -, hwidth, rest, ht⟩ := slotDigits?_eq_some_iff.1 h
  exact ⟨rest, ht, hwidth⟩

/-- A token is read whatever follows it, and ends with the closing slot character. -/
theorem ended_slotDigits? : Text.Ended slotDigits? slotClose := by
  refine ⟨⟨fun h => ?_, fun h s => ?_⟩, fun h => ?_⟩
  · obtain ⟨-, -, rfl, rest, rfl⟩ := slotDigits?_eq_some_iff.1 h
    simp
  · obtain ⟨hne, hdigits, rfl, rest, rfl⟩ := slotDigits?_eq_some_iff.1 h
    refine slotDigits?_eq_some_iff.2 ⟨hne, hdigits, rfl, s, ?_⟩
    rw [List.take_left' (by simp)]
  · obtain ⟨-, -, rfl, rest, rfl⟩ := slotDigits?_eq_some_iff.1 h
    refine ⟨Nat.succ_pos _, ?_⟩
    simp

/-! ## Issued texts -/

/-- The slot characters of a text belong to tokens with numbers below a bound. -/
inductive Issued (n : Nat) : Text → Prop
  | nil : Issued n []
  | char {c : Point} {t : Text} : c ≠ slotOpen → c ≠ slotClose → Issued n t → Issued n (c :: t)
  | token {i : Nat} {t : Text} : i < n → Issued n t → Issued n (slotToken i ++ t)

/-- A text without slot characters. -/
def SlotFree (t : Text) : Prop := ∀ c ∈ t, c ≠ slotOpen ∧ c ≠ slotClose

instance : DecidablePred SlotFree := fun t => List.decidableBAll _ t

theorem slotFree_append {t u : Text} (ht : SlotFree t) (hu : SlotFree u) : SlotFree (t ++ u) := by
  intro c hc
  rcases List.mem_append.1 hc with hc | hc
  · exact ht c hc
  · exact hu c hc

theorem slotFree_of_plain {t : Text} (h : Plain t) : SlotFree t := by
  intro c hc
  have hm := h c hc
  constructor <;> rintro rfl <;> revert hm <;> decide

variable {n : Nat} {t u : Text}

theorem Issued.slotFree_append (ht : Issued n t) : ∀ {u : Text}, SlotFree u → Issued n (u ++ t)
  | [], _ => ht
  | c :: cs, hu => .char (hu c (by simp)).1 (hu c (by simp)).2
      (Issued.slotFree_append ht (u := cs) fun x hx => hu x (by simp [hx]))

/-- A text without slot characters is cut off an issued one. -/
theorem Issued.of_slotFree_append : ∀ {u : Text}, SlotFree u → Issued n (u ++ t) → Issued n t
  | [], _, h => h
  | c :: cs, hu, h => by
    have hc := (hu c (by simp)).1
    have htail : SlotFree cs := fun x hx => hu x (by simp [hx])
    generalize hw : c :: cs ++ t = w at h
    cases h with
    | nil => cases hw
    | char _ _ h' =>
      cases hw
      exact Issued.of_slotFree_append htail h'
    | token _ _ => exact absurd (List.cons.inj hw).1 hc

theorem Issued.append (ht : Issued n t) (hu : Issued n u) : Issued n (t ++ u) := by
  induction ht with
  | nil => exact hu
  | char hopen hclose _ ih => exact .char hopen hclose ih
  | token hi _ ih =>
    rw [List.append_assoc]
    exact .token hi ih

/-! ## Filling -/

namespace Slots

variable {s : Slots}

@[simp] theorem fill_nil (s : Slots) : s.fill [] = [] := rfl

/-- What filling writes for a piece. -/
def writePiece (s : Slots) : Piece Text → Text
  | .char c => [c]
  | .item digits => s.valueOf digits

/-- The number of digits of a piece that has too many. -/
def longPiece? : Piece Text → Option Nat
  | .char _ => none
  | .item digits => if digits.length > digitLimit then some digits.length else none

theorem fill_eq (s : Slots) (t : Text) : s.fill t = (Text.pieces slotDigits? t).flatMap s.writePiece := by
  refine congrArg (List.flatMap · _) (funext fun piece => ?_)
  cases piece <;> rfl

theorem overlong?_eq (t : Text) : overlong? t = (Text.pieces slotDigits? t).findSome? longPiece? := by
  refine congrArg (List.findSome? · _) (funext fun piece => ?_)
  cases piece <;> rfl

theorem pieces_slotToken_append (i : Nat) (t : Text) :
    Text.pieces slotDigits? (slotToken i ++ t) = .item (Text.ofNat i) :: Text.pieces slotDigits? t :=
  Text.pieces_item_append (by simp [slotToken]) (slotDigits?_slotToken i t)

/-- A token with a held text is replaced by it. -/
theorem valueOf_ofNat {i : Nat} (h : i < s.length) : s.valueOf (Text.ofNat i) = s[i] := by
  simp [valueOf, Text.decimalValue?_ofNat, h]

theorem fill_slotToken_append (s : Slots) (i : Nat) (t : Text) :
    s.fill (slotToken i ++ t) = s.valueOf (Text.ofNat i) ++ s.fill t := by
  rw [fill_eq, pieces_slotToken_append, List.flatMap_cons, ← fill_eq]
  rfl

/-- Where nothing is held, every token stays as written. -/
theorem fill_of_none_held (t : Text) : fill [] t = t := by
  induction t using Text.pieces_induction slotDigits? with
  | nil => rfl
  | char c cs hread ih =>
    rw [fill_eq, Text.pieces_of_none hread, List.flatMap_cons, ← fill_eq, ih]
    rfl
  | item c cs digits width hread ih =>
    obtain ⟨rest, ht, rfl⟩ := slotDigits?_eq_some hread
    have hrest : cs.drop (digits.length + 2 - 1) = rest := by
      rw [(List.cons.inj ht).2]
      simp
    rw [fill_eq, Text.pieces_of_some hread, List.flatMap_cons, ← fill_eq, ih, hrest, ht]
    simp [writePiece, valueOf]

/-- No token starts in a text that stands before another one. -/
def Unread (u t : Text) : Prop :=
  Text.pieces slotDigits? (u ++ t) = u.map .char ++ Text.pieces slotDigits? t

theorem Unread.fill_append (h : Unread u t) (s : Slots) : s.fill (u ++ t) = u ++ s.fill t := by
  have hu : (u.map Piece.char).flatMap s.writePiece = u := by
    simp [List.flatMap_map, writePiece]
  rw [fill_eq, h, List.flatMap_append, ← fill_eq, hu]

theorem Unread.overlong?_append (h : Unread u t) : overlong? (u ++ t) = overlong? t := by
  have hu : (u.map Piece.char).findSome? longPiece? = none := by
    simp [List.findSome?_eq_none_iff, longPiece?]
  rw [overlong?_eq, h, List.findSome?_append, ← overlong?_eq, hu, Option.none_or]

/-- A text without the opening slot character is unread. -/
theorem unread_of_not_open (h : slotOpen ∉ u) (t : Text) : Unread u t := by
  refine Text.pieces_chars_append u t fun a b hab hb => ?_
  obtain ⟨c, cs, rfl⟩ := List.exists_cons_of_ne_nil hb
  refine slotDigits?_of_head ?_ _
  rintro rfl
  exact h (by simp [hab])

theorem unread_of_slotFree (h : SlotFree u) (t : Text) : Unread u t :=
  unread_of_not_open (fun hm => (h _ hm).1 rfl) t

/-- An issued text is filled on its own, whatever follows it. -/
theorem fill_issued_append (ht : Issued n t) (u : Text) : s.fill (t ++ u) = s.fill t ++ s.fill u := by
  induction ht with
  | nil => rfl
  | @char c t hopen hclose _ ih =>
    have hfree : SlotFree [c] := by simp [SlotFree, hopen, hclose]
    have hchar : ∀ v, s.fill (c :: v) = c :: s.fill v := fun v => (unread_of_slotFree hfree v).fill_append s
    rw [List.cons_append, hchar, hchar, ih, List.cons_append]
  | @token i t _ _ ih => rw [List.append_assoc, fill_slotToken_append, fill_slotToken_append, ih, List.append_assoc]

/-- The first character after the digits at the head of a text, if there is one, does not close a token. -/
def NoEarlyClose (t : Text) : Prop := (t.dropWhile Text.isDigit).head? ≠ some slotClose

theorem noEarlyClose_append (ht : NoEarlyClose t) : ∀ {u : Text}, slotClose ∉ u → NoEarlyClose (u ++ t)
  | [], _ => ht
  | c :: cs, hu => by
    unfold NoEarlyClose
    rw [List.cons_append, List.dropWhile_cons]
    split
    · exact noEarlyClose_append ht (u := cs) fun h => hu (by simp [h])
    · intro h
      exact hu (by simpa using Or.inl (Option.some.inj h).symm)

theorem noEarlyClose_slotToken (i : Nat) (t : Text) : NoEarlyClose (slotToken i ++ t) := by
  have hne : slotOpen ≠ slotClose := by decide
  simp [NoEarlyClose, slotToken, isDigit_slotOpen, hne]

theorem slotDigits?_eq_none (ht : NoEarlyClose t) (c : Point) : slotDigits? (c :: t) = none := by
  by_cases hc : c = slotOpen
  · subst hc
    rw [slotDigits?]
    simp only [if_true]
    split
    · rename_i hdrop
      split
      · rename_i hclose
        exact absurd (by rw [hdrop, hclose]; rfl) ht
      · rfl
    · rfl
  · exact slotDigits?_of_head hc t

/-- A text without the closing slot character is unread where none comes first after digits. -/
theorem unread_of_not_close (h : slotClose ∉ u) (ht : NoEarlyClose t) : Unread u t := by
  refine Text.pieces_chars_append u t fun a b hab hb => ?_
  obtain ⟨c, cs, rfl⟩ := List.exists_cons_of_ne_nil hb
  exact slotDigits?_eq_none (noEarlyClose_append ht fun hm => h (by simp [hab, hm])) c

/-! ## Held texts -/

/-- What a resolution writes into a template: its own texts, and tokens of texts that are held. -/
def Held (s : Slots) (t : Text) : Prop := Plain t ∨ ∃ i, i < s.length ∧ t = slotToken i

theorem Held.braceFree (h : Held s t) : BraceFree t := by
  obtain h | ⟨i, -, rfl⟩ := h
  · exact h.braceFree
  · exact braceFree_slotToken i

theorem Held.issued (h : Held s t) : Issued s.length t := by
  obtain h | ⟨i, hi, rfl⟩ := h
  · simpa using Issued.slotFree_append .nil (slotFree_of_plain h)
  · simpa using Issued.token hi .nil

theorem fill_slotFree (h : SlotFree t) (s : Slots) : s.fill t = t := by
  simpa using (unread_of_slotFree h []).fill_append s

theorem overlong?_slotFree (h : SlotFree t) : overlong? t = none := by
  have := (unread_of_slotFree h []).overlong?_append
  rwa [List.append_nil] at this

theorem fill_slotToken {i : Nat} (h : i < s.length) : s.fill (slotToken i) = s[i] := by
  simpa [valueOf_ofNat h] using s.fill_slotToken_append i []

/-- Texts held later leave a held text as it is. -/
theorem Held.fill_eq {s' : Slots} (h : Held s t) (hs : s <+: s') : s'.fill t = s.fill t := by
  obtain h | ⟨i, hi, rfl⟩ := h
  · have hfree := slotFree_of_plain h
    rw [fill_slotFree hfree, fill_slotFree hfree]
  · have hi' := Nat.lt_of_lt_of_le hi hs.length_le
    obtain ⟨more, rfl⟩ := hs
    rw [fill_slotToken hi, fill_slotToken hi', List.getElem_append_left hi]

/-- A condition on the texts of a template, with the texts held so far, that a resolution keeps. -/
structure Admits (p : Slots → Text → Prop) : Prop where
  grow {s s' : Slots} {t : Text} : s <+: s' → p s t → p s' t
  token {s : Slots} {i : Nat} : i < s.length → p s (slotToken i)
  digits (s : Slots) (n : Nat) : p s (Text.ofNat n)

theorem admits_braceFree : Admits fun _ => BraceFree where
  grow _ h := h
  token _ := braceFree_slotToken _
  digits _ n := (plain_ofNat n).braceFree

theorem admits_held : Admits Held where
  grow hs := fun
    | .inl h => .inl h
    | .inr ⟨i, hi, ht⟩ => .inr ⟨i, Nat.lt_of_lt_of_le hi hs.length_le, ht⟩
  token hi := .inr ⟨_, hi, rfl⟩
  digits _ n := .inl (plain_ofNat n)

/-! ## Tokens of a short store -/

theorem overlong?_slotToken_congr (i : Nat) (h : overlong? t = overlong? u) :
    overlong? (slotToken i ++ t) = overlong? (slotToken i ++ u) := by
  simp only [overlong?_eq, pieces_slotToken_append, List.findSome?_cons] at h ⊢
  rw [h]

theorem overlong?_slotToken_append {i : Nat} (h : i < digitBound) (t : Text) :
    overlong? (slotToken i ++ t) = overlong? t := by
  have hlen : (Text.ofNat i).length ≤ digitLimit := Text.length_ofNat_le h
  rw [overlong?_eq, pieces_slotToken_append, List.findSome?_cons, ← overlong?_eq]
  simp [longPiece?, Nat.not_lt.2 hlen]

/-- The tokens of a store are short enough to be read while it holds no more texts than numbers of the digit limit. -/
theorem overlong?_of_issued (h : Issued n t) (hn : n ≤ digitBound) : overlong? t = none := by
  induction h with
  | nil => rfl
  | @char c t hopen hclose _ ih =>
    have hfree : SlotFree [c] := by simp [SlotFree, hopen, hclose]
    exact (unread_of_slotFree hfree t).overlong?_append.trans ih
  | @token i t hi _ ih => rw [overlong?_slotToken_append (Nat.lt_of_lt_of_le hi hn), ih]

/-- Without a token of too many digits, restoring fills. -/
theorem restore_eq_fill (s : Slots) (h : overlong? t = none) : s.restore t = .ok (s.fill t) := by
  cases s with
  | nil => exact congrArg Except.ok (fill_of_none_held t).symm
  | cons u us => simp [restore, h]

/-- A token of too many digits is refused where texts are held. -/
theorem restore_eq_error {count : Nat} (hs : 0 < s.length) (h : overlong? t = some count) :
    s.restore t = .error count := by
  cases s with
  | nil => cases hs
  | cons u us => simp [restore, h]

end Slots

end Stencil
