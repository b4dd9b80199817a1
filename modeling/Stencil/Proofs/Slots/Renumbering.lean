import Stencil.Proofs.Slots.Channel

/-!
# Tokens under other numbers

* **Renumbered texts** (`Renumbered`): one text has the tokens of some texts held after `k` others where the other has
  those of the same texts held after `k'` others; all other characters are equal, and none of them is a slot character.
* Either text decides the other one (`Renumbered.right_unique`, `Renumbered.eq_iff`), and what comes after renumbered
  texts is renumbered (`Renumbered.tail`).
* A token is unlike all other characters, so that a marker or a tag stands in one text where it stands in the other one
  (`Renumbered.prefix_iff`).
* Renumbered texts are filled alike, each from the slots with its own numbers (`Renumbered.fill_eq`).
-/

namespace Stencil

/-- A token is read off a text in one way. -/
theorem slotToken_append_inj {i j : Nat} {t u : Text} (h : slotToken i ++ t = slotToken j ++ u) : i = j ∧ t = u := by
  have hread := slotDigits?_slotToken i t
  rw [h, slotDigits?_slotToken] at hread
  obtain ⟨-, hlength⟩ := Prod.mk.inj (Option.some.inj hread)
  obtain ⟨htoken, htail⟩ := List.append_inj h hlength.symm
  exact ⟨slotToken_injective htoken, htail⟩

/-- Texts that differ at most in their tokens: where one has the token that comes `i` tokens after the first `k`, the
other one has that which comes as many after the first `k'`, and `i` is less than `n`. -/
inductive Renumbered (n k k' : Nat) : Text → Text → Prop
  | nil : Renumbered n k k' [] []
  | char {c : Point} {t t' : Text} : c ≠ slotOpen → c ≠ slotClose → Renumbered n k k' t t' →
      Renumbered n k k' (c :: t) (c :: t')
  | token {i : Nat} {t t' : Text} : i < n → Renumbered n k k' t t' →
      Renumbered n k k' (slotToken (k + i) ++ t) (slotToken (k' + i) ++ t')

namespace Renumbered

variable {n m k k' : Nat} {t t' u u' v : Text}

theorem symm (h : Renumbered n k k' t t') : Renumbered n k' k t' t := by
  induction h with
  | nil => exact .nil
  | char hopen hclose _ ih => exact .char hopen hclose ih
  | token hi _ ih => exact .token hi ih

theorem mono (h : Renumbered n k k' t t') (hle : n ≤ m) : Renumbered m k k' t t' := by
  induction h with
  | nil => exact .nil
  | char hopen hclose _ ih => exact .char hopen hclose ih
  | token hi _ ih => exact .token (Nat.lt_of_lt_of_le hi hle) ih

theorem append (h : Renumbered n k k' t t') (hu : Renumbered n k k' u u') :
    Renumbered n k k' (t ++ u) (t' ++ u') := by
  induction h with
  | nil => exact hu
  | char hopen hclose _ ih => exact .char hopen hclose ih
  | token hi _ ih =>
    rw [List.append_assoc, List.append_assoc]
    exact .token hi ih

/-- Texts without tokens are not changed. -/
theorem of_slotFree (n k k' : Nat) : ∀ {t : Text}, SlotFree t → Renumbered n k k' t t
  | [], _ => .nil
  | c :: cs, h => .char (h c (by simp)).1 (h c (by simp)).2 (of_slotFree n k k' fun x hx => h x (by simp [hx]))

/-- The token of the next text to be held. -/
theorem of_token (k k' : Nat) {i : Nat} (hi : i < n) : Renumbered n k k' (slotToken (k + i)) (slotToken (k' + i)) := by
  have h : Renumbered n k k' (slotToken (k + i) ++ []) (slotToken (k' + i) ++ []) := .token hi .nil
  rwa [List.append_nil, List.append_nil] at h

/-! ## Parts -/

theorem nil_left (h : Renumbered n k k' [] t') : t' = [] := by
  generalize ht : ([] : Text) = t at h
  cases h with
  | nil => rfl
  | char _ _ _ => cases ht
  | token _ _ => cases ht

theorem cons_left {c : Point} (hc : c ≠ slotOpen) (h : Renumbered n k k' (c :: t) t') :
    ∃ t'', t' = c :: t'' ∧ Renumbered n k k' t t'' := by
  generalize hv : c :: t = v at h
  cases h with
  | nil => cases hv
  | @char d s s' _ _ h =>
    obtain ⟨rfl, rfl⟩ := List.cons.inj hv
    exact ⟨s', rfl, h⟩
  | token _ _ => exact absurd (List.cons.inj hv).1 hc

theorem token_left {j : Nat} (h : Renumbered n k k' (slotToken (k + j) ++ t) t') :
    ∃ t'', t' = slotToken (k' + j) ++ t'' ∧ Renumbered n k k' t t'' := by
  generalize hv : slotToken (k + j) ++ t = v at h
  cases h with
  | nil => cases hv
  | char hopen _ _ => exact absurd (List.cons.inj hv).1.symm hopen
  | @token i s s' _ h =>
    obtain ⟨hnumber, rfl⟩ := slotToken_append_inj hv
    rw [Nat.add_left_cancel hnumber]
    exact ⟨s', rfl, h⟩

/-- **What comes after renumbered texts is renumbered.** -/
theorem tail (h : Renumbered n k k' t t') (hv : Renumbered n k k' (t ++ u) v) :
    ∃ u', v = t' ++ u' ∧ Renumbered n k k' u u' := by
  induction h generalizing v with
  | nil => exact ⟨v, rfl, hv⟩
  | char hopen _ _ ih =>
    obtain ⟨v', rfl, hrest⟩ := cons_left hopen hv
    obtain ⟨u', rfl, hu⟩ := ih hrest
    exact ⟨u', rfl, hu⟩
  | token _ _ ih =>
    rw [List.append_assoc] at hv
    obtain ⟨v', rfl, hrest⟩ := token_left hv
    obtain ⟨u', rfl, hu⟩ := ih hrest
    exact ⟨u', by rw [List.append_assoc], hu⟩

/-- A text has at most one that it is renumbered to. -/
theorem right_unique (h : Renumbered n k k' t t') (hu : Renumbered n k k' t u') : t' = u' := by
  rw [← List.append_nil t] at hu
  obtain ⟨rest, rfl, hrest⟩ := h.tail hu
  rw [nil_left hrest, List.append_nil]

/-- **Renumbering neither joins nor parts texts.** -/
theorem eq_iff (h : Renumbered n k k' t t') (hu : Renumbered n k k' u u') : t = u ↔ t' = u' := by
  constructor
  · rintro rfl
    exact h.right_unique hu
  · rintro rfl
    exact h.symm.right_unique hu.symm

/-- A text without slot characters stands at the start of both. -/
theorem slotFree_tail (hu : SlotFree u) (h : Renumbered n k k' (u ++ t) v) :
    ∃ t', v = u ++ t' ∧ Renumbered n k k' t t' :=
  (of_slotFree n k k' hu).tail h

theorem prefix_iff (hu : SlotFree u) (h : Renumbered n k k' t t') : u <+: t ↔ u <+: t' := by
  constructor
  · rintro ⟨rest, rfl⟩
    obtain ⟨rest', rfl, -⟩ := slotFree_tail hu h
    exact ⟨rest', rfl⟩
  · rintro ⟨rest, rfl⟩
    obtain ⟨rest', rfl, -⟩ := slotFree_tail hu h.symm
    exact ⟨rest', rfl⟩

/-! ## Places -/

/-- Counts of characters up to one place in both texts. -/
def SamePlace (n k k' : Nat) (t t' : Text) (pos pos' : Nat) : Prop :=
  ∃ a b a' b', t = a ++ b ∧ t' = a' ++ b' ∧ Renumbered n k k' a a' ∧ Renumbered n k k' b b' ∧
    pos = a.length ∧ pos' = a'.length

namespace SamePlace

variable {pos pos' last last' : Nat}

theorem of_append (h : Renumbered n k k' t t') (hu : Renumbered n k k' u u') :
    SamePlace n k k' (t ++ u) (t' ++ u') t.length t'.length :=
  ⟨t, u, t', u', rfl, rfl, h, hu, rfl, rfl⟩

theorem take (h : SamePlace n k k' t t' pos pos') : Renumbered n k k' (t.take pos) (t'.take pos') := by
  obtain ⟨a, b, a', b', rfl, rfl, ha, -, rfl, rfl⟩ := h
  rwa [List.take_left, List.take_left]

theorem drop (h : SamePlace n k k' t t' pos pos') : Renumbered n k k' (t.drop pos) (t'.drop pos') := by
  obtain ⟨a, b, a', b', rfl, rfl, -, hb, rfl, rfl⟩ := h
  rwa [List.drop_left, List.drop_left]

/-- The text between two places. -/
theorem slice (h : SamePlace n k k' t t' pos pos') (hlast : SamePlace n k k' t t' last last') :
    Renumbered n k k' (t.slice pos last) (t'.slice pos' last') := by
  obtain ⟨a, b, a', b', rfl, rfl, ha, -, rfl, rfl⟩ := h
  obtain ⟨c, d, c', d', hsplit, hsplit', hc, -, rfl, rfl⟩ := hlast
  have htake : (a ++ b).take c.length = c := by rw [hsplit, List.take_left]
  have htake' : (a' ++ b').take c'.length = c' := by rw [hsplit', List.take_left]
  rw [Text.slice, Text.slice, htake, htake']
  rcases List.append_eq_append_iff.1 hsplit with ⟨m, rfl, -⟩ | ⟨m, rfl, -⟩
  · obtain ⟨m', rfl, hm⟩ := ha.tail hc
    rwa [List.drop_left, List.drop_left]
  · obtain ⟨m', rfl, -⟩ := hc.tail ha
    have hempty : ∀ v w : Text, v.drop (v ++ w).length = [] := fun v w => List.drop_of_length_le (by simp)
    rw [hempty, hempty]
    exact .nil

end SamePlace

/-! ## Restoring -/

theorem issued (h : Renumbered n k k' t t') : Issued (k + n) t := by
  induction h with
  | nil => exact .nil
  | char hopen hclose _ ih => exact .char hopen hclose ih
  | token hi _ ih => exact .token (Nat.add_lt_add_left hi k) ih

variable {s s' new : Slots}

/-- Renumbered texts are filled alike, each with what is held under its own numbers. -/
theorem fill_eq (h : Renumbered n s.length s'.length t t') (hn : n ≤ new.length) :
    (s ++ new).fill t = (s' ++ new).fill t' := by
  have hvalue : ∀ (r : Slots) i, i < n → (r ++ new).valueOf (Text.ofNat (r.length + i)) = new.getD i [] := by
    intro r i hi
    have hlt : r.length + i < (r ++ new).length := by
      rw [List.length_append]
      omega
    rw [Slots.valueOf_ofNat hlt, List.getElem_append_right (Nat.le_add_right _ _)]
    simp [List.getElem?_eq_getElem (Nat.lt_of_lt_of_le hi hn)]
  generalize hk : s.length = k, hk' : s'.length = k' at h
  induction h with
  | nil => rfl
  | @char c t t' hopen hclose _ ih =>
    have hfree : SlotFree [c] := by simp [SlotFree, hopen, hclose]
    have hchar : ∀ (r : Slots) v, r.fill (c :: v) = c :: r.fill v := fun r v =>
      (Slots.unread_of_slotFree hfree v).fill_append r
    rw [hchar, hchar, ih]
  | @token i t t' hi _ ih =>
    subst hk hk'
    rw [Slots.fill_slotToken_append, Slots.fill_slotToken_append, hvalue s i hi, hvalue s' i hi, ih]

/-- Renumbered texts are restored alike, as long as their numbers can be read. -/
theorem restore_eq (h : Renumbered n s.length s'.length t t') (hn : n ≤ new.length)
    (hs : s.length + n ≤ digitBound) (hs' : s'.length + n ≤ digitBound) :
    (s ++ new).restore t = (s' ++ new).restore t' := by
  rw [Slots.restore_eq_fill _ (Slots.overlong?_of_issued h.issued hs),
    Slots.restore_eq_fill _ (Slots.overlong?_of_issued h.symm.issued hs'), h.fill_eq hn]

end Renumbered

end Stencil
