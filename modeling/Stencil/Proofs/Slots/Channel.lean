import Stencil.Proofs.Slots.Tokens

/-!
# Slots as a channel

* **Holding** texts one after the other (`Slots.holdAll`) gives each of them a token of its own.
* **Mentions** (`Slots.Mention`): a token that stands in a text, the text that is held for it, and the text up to the
  next one. Texts without slot characters and mentions make a text (`Slots.interleave`).
* Restoring reads the tokens as what they were given for, whatever the held texts are, and however many texts are held
  later (`Slots.restore_interleave`).
-/

namespace Stencil

theorem slotToken_injective {i j : Nat} (h : slotToken i = slotToken j) : i = j := by
  have hdigits : Text.ofNat i = Text.ofNat j := List.append_cancel_right (List.cons.inj h).2
  have hvalue := Text.decimalValue?_ofNat i
  rw [hdigits, Text.decimalValue?_ofNat] at hvalue
  exact (Option.some.inj hvalue).symm

namespace Slots

/-! ## Holding -/

/-- The slots after some texts are held one after the other, and the tokens of the texts. -/
def holdAll (s : Slots) : List Text → Slots × List Text
  | [] => (s, [])
  | t :: ts =>
    let (s', token) := s.hold t
    let (s'', tokens) := holdAll s' ts
    (s'', token :: tokens)

theorem holdAll_eq (s : Slots) (texts : List Text) :
    s.holdAll texts = (s ++ texts, (List.range' s.length texts.length).map slotToken) := by
  induction texts generalizing s with
  | nil => simp [holdAll]
  | cons t ts ih => simp [holdAll, hold, ih, List.range'_succ]

/-- Every text has a token of its own. -/
theorem nodup_holdAll (s : Slots) (texts : List Text) : (s.holdAll texts).2.Nodup := by
  rw [holdAll_eq]
  exact List.Pairwise.map _ (fun _ _ hne heq => hne (slotToken_injective heq)) List.nodup_range'

/-- A token and the text that was held for it. -/
theorem mem_zip_holdAll {s : Slots} {texts : List Text} {token held : Text}
    (h : (token, held) ∈ (s.holdAll texts).2.zip texts) :
    ∃ i, token = slotToken (s.length + i) ∧ texts[i]? = some held := by
  obtain ⟨i, hi⟩ := List.mem_iff_getElem?.1 h
  rw [holdAll_eq, List.getElem?_zip_eq_some] at hi
  obtain ⟨htoken, hheld⟩ := hi
  simp only [List.getElem?_map, Option.map_eq_some_iff] at htoken
  obtain ⟨number, hnumber, rfl⟩ := htoken
  have hlt : i < texts.length := (List.getElem?_eq_some_iff.1 hheld).1
  rw [List.getElem?_range' hlt, Nat.one_mul] at hnumber
  exact ⟨i, congrArg slotToken (Option.some.inj hnumber).symm, hheld⟩

/-! ## Mentions -/

/-- A token in a text. -/
structure Mention where
  token : Text
  /-- What the token stands for. -/
  held : Text
  /-- The text between the token and the next one. -/
  after : Text

/-- A text that starts with a part of its own, and goes on with a part of each mention and what comes after it. -/
def interleave (part : Mention → Text) : Text → List Mention → Text
  | first, [] => first
  | first, m :: ms => first ++ (part m ++ interleave part m.after ms)

/-- The token of a held text, before a text without slot characters. -/
structure Mention.In (s : Slots) (m : Mention) : Prop where
  held : ∃ i, m.token = slotToken i ∧ s[i]? = some m.held
  free : SlotFree m.after

theorem Mention.In.append {s : Slots} {m : Mention} (h : m.In s) (more : Slots) : m.In (s ++ more) := by
  obtain ⟨i, htoken, hheld⟩ := h.held
  refine ⟨⟨i, htoken, ?_⟩, h.free⟩
  rw [List.getElem?_append_left (List.getElem?_eq_some_iff.1 hheld).1, hheld]

section Mentions

variable {s : Slots} {first : Text} {ms : List Mention}

/-- Tokens between texts without slot characters are replaced by what is held for them. -/
theorem fill_interleave (hfirst : SlotFree first) (hms : ∀ m ∈ ms, m.In s) :
    s.fill (interleave Mention.token first ms) = interleave Mention.held first ms := by
  induction ms generalizing first with
  | nil => exact fill_slotFree hfirst s
  | cons m ms ih =>
    obtain ⟨hm, hrest⟩ := List.forall_mem_cons.1 hms
    obtain ⟨i, htoken, hheld⟩ := hm.held
    have hvalue : s.valueOf (Text.ofNat i) = m.held := by
      simp [valueOf, Text.decimalValue?_ofNat, hheld]
    simp only [interleave]
    rw [(unread_of_slotFree hfirst _).fill_append, htoken, fill_slotToken_append, hvalue, ih hm.free hrest]

/-- Tokens of few texts are short. -/
theorem overlong?_interleave (hs : s.length ≤ digitBound) (hfirst : SlotFree first) (hms : ∀ m ∈ ms, m.In s) :
    overlong? (interleave Mention.token first ms) = none := by
  induction ms generalizing first with
  | nil => exact overlong?_slotFree hfirst
  | cons m ms ih =>
    obtain ⟨hm, hrest⟩ := List.forall_mem_cons.1 hms
    obtain ⟨i, htoken, hheld⟩ := hm.held
    have hi : i < digitBound := Nat.lt_of_lt_of_le (List.getElem?_eq_some_iff.1 hheld).1 hs
    simp only [interleave]
    rw [(unread_of_slotFree hfirst _).overlong?_append, htoken, overlong?_slotToken_append hi, ih hm.free hrest]

end Mentions

/-- **Slots are an exact channel**: of any held texts, each has a token of its own, and in a text that is made of their
tokens, in any order and number, and of texts without slot characters, restoring puts the held texts in the places of
their tokens. It still does so when more texts are held. -/
theorem restore_interleave (texts later : List Text) (hcount : texts.length ≤ digitBound) {first : Text}
    {mentions : List Mention} (hfirst : SlotFree first)
    (hmentions : ∀ m ∈ mentions, (m.token, m.held) ∈ (holdAll [] texts).2.zip texts ∧ SlotFree m.after) :
    (holdAll [] texts).2.Nodup ∧
    (holdAll [] texts).1.restore (interleave Mention.token first mentions)
      = .ok (interleave Mention.held first mentions) ∧
    ((holdAll [] texts).1.holdAll later).1.restore (interleave Mention.token first mentions)
      = .ok (interleave Mention.held first mentions) := by
  have hin : ∀ m ∈ mentions, m.In texts := by
    intro m hm
    obtain ⟨hpair, hfree⟩ := hmentions m hm
    obtain ⟨i, htoken, hheld⟩ := mem_zip_holdAll hpair
    rw [List.length_nil, Nat.zero_add] at htoken
    exact ⟨⟨i, htoken, hheld⟩, hfree⟩
  have hlater : ∀ m ∈ mentions, m.In (texts ++ later) := fun m hm => (hin m hm).append later
  have hshort := overlong?_interleave hcount hfirst hin
  refine ⟨nodup_holdAll [] texts, ?_, ?_⟩
  · rw [holdAll_eq, List.nil_append, restore_eq_fill _ hshort, fill_interleave hfirst hin]
  · rw [holdAll_eq, holdAll_eq, List.nil_append, restore_eq_fill _ hshort, fill_interleave hfirst hlater]

/-- Texts like tokens, and an empty one. -/
def tokenLikes : List Text := [slotToken 1 ++ slotToken 0, [], slotClose :: slotOpen :: ['7']]

/-- The last of them twice, and the first one between. -/
def mentionsOfTokenLikes : List Mention :=
  [⟨slotToken 2, slotClose :: slotOpen :: ['7'], "0".text⟩, ⟨slotToken 0, slotToken 1 ++ slotToken 0, []⟩,
    ⟨slotToken 2, slotClose :: slotOpen :: ['7'], "z".text⟩]

theorem tokenLikes_restored :
    (holdAll [] tokenLikes).1.restore (interleave Mention.token ['a'] mentionsOfTokenLikes)
      = .ok (interleave Mention.held ['a'] mentionsOfTokenLikes) ∧
    ((holdAll [] tokenLikes).1.holdAll [slotToken 2]).1.restore (interleave Mention.token ['a'] mentionsOfTokenLikes)
      = .ok (interleave Mention.held ['a'] mentionsOfTokenLikes) := by
  have hcount : tokenLikes.length ≤ digitBound := Nat.le_trans (by decide) ten_le_digitBound
  exact (restore_interleave tokenLikes [slotToken 2] hcount (by decide) (by decide)).2

end Slots

end Stencil
