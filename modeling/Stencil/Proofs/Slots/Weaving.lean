import Stencil.Proofs.Markup.Matching
import Stencil.Proofs.Slots.Tokens
import Stencil.Substitution

/-!
# Weaving

* **Weaving** (`Slots.weave`): the text in which the tokens and the placeholders of a text are replaced in one scan, so
  that no value put in place is ever read.
* Filling the placeholders of an issued text and then its tokens weaves it (`Slots.woven_of_issued`), provided that the
  values put in for placeholders make no token together with what stands around them. That is so where none of them
  holds the opening slot character (`guard_not_open`), and where none holds the closing one (`guard_not_close`).
-/

namespace Stencil

open Text (after? isBlank pieces)

/-! ## What a placeholder is written with -/

/-- Reading came from one text to the other past characters that are no slot characters. -/
def Past (t rest : Text) : Prop := ∃ u, SlotFree u ∧ t = u ++ rest

theorem Past.trans {t u v : Text} : Past t u → Past u v → Past t v
  | ⟨a, ha, hta⟩, ⟨b, hb, hub⟩ => ⟨a ++ b, slotFree_append ha hb, by rw [hta, hub, List.append_assoc]⟩

theorem past_after? {marker t rest : Text} (hm : SlotFree marker) (h : after? marker t = some rest) : Past t rest :=
  ⟨marker, hm, Text.after?_eq_some h⟩

/-- A class of characters without slot characters. -/
def Apart (p : Point → Bool) : Prop := p slotOpen = false ∧ p slotClose = false

theorem Apart.slotFree {p : Point → Bool} (hp : Apart p) {t : Text} (h : ∀ c ∈ t, p c = true) : SlotFree t := by
  intro c hc
  have hpc := h c hc
  constructor
  · rintro rfl
    rw [hp.1] at hpc
    cases hpc
  · rintro rfl
    rw [hp.2] at hpc
    cases hpc

theorem past_dropWhile {p : Point → Bool} (hp : Apart p) (t : Text) : Past t (t.dropWhile p) :=
  ⟨t.takeWhile p, hp.slotFree (List.all_eq_true.1 List.all_takeWhile), List.takeWhile_append_dropWhile.symm⟩

theorem apart_isBlank : Apart isBlank := ⟨by decide, by decide⟩

theorem apart_isNameChar : Apart isNameChar := ⟨by decide +kernel, by decide +kernel⟩

theorem past_readPlainName? {t n rest : Text} (h : readPlainName? t = some (n, rest)) : Past t rest := by
  cases t with
  | nil => cases h
  | cons c cs =>
    simp only [readPlainName?] at h
    split at h
    · rename_i hc
      cases h
      have hfree : SlotFree [c] := by
        refine apart_isNameChar.slotFree fun x hx => ?_
        rw [List.mem_singleton.1 hx]
        exact isNameChar_of_isNameStart hc
      exact Past.trans ⟨[c], hfree, rfl⟩ (past_dropWhile apart_isNameChar cs)
    · cases h

theorem past_readName? {t n rest : Text} (h : readName? t = some (n, rest)) : Past t rest := by
  unfold readName? at h
  split at h
  · obtain ⟨⟨name, rest'⟩, hr, he⟩ := Option.map_eq_some_iff.1 h
    cases he
    exact Past.trans ⟨['@'], by decide, rfl⟩ (past_readPlainName? hr)
  · exact past_readPlainName? h

/-- A placeholder is read off the text that it is written as, and that holds no slot characters. -/
theorem placeholder?_eq_some {t : Text} {p : Placeholder} {width : Nat} (h : placeholder? t = some (p, width)) :
    ∃ rest, t = p.source ++ rest ∧ width = p.source.length ∧ p.source ≠ [] ∧ SlotFree p.source := by
  simp only [placeholder?, Option.bind_eq_bind, Option.bind_eq_some_iff, Option.pure_def, Option.some.injEq,
    Prod.exists, Prod.mk.injEq] at h
  obtain ⟨inside, hopen, name, after, hname, rest, hclose, rfl, rfl⟩ := h
  obtain ⟨u, hu, hinside⟩ : Past inside rest :=
    (past_dropWhile apart_isBlank _).trans <| (past_readName? hname).trans <|
      (past_dropWhile apart_isBlank _).trans (past_after? (by decide) hclose)
  have ht : t = ([Point.char '{', '{'] ++ u) ++ rest := by rw [Text.after?_eq_some hopen, hinside, List.append_assoc]
  have hwidth : t.length - rest.length = ([Point.char '{', '{'] ++ u).length := by
    rw [ht, List.length_append, Nat.add_sub_cancel]
  have hsource : t.take (t.length - rest.length) = [Point.char '{', '{'] ++ u := by rw [hwidth, ht, List.take_left]
  simp only [hsource]
  exact ⟨rest, ht, hwidth, by simp, slotFree_append (by decide) hu⟩

/-! ## Written trees -/

theorem IsName.slotFree {n : Text} (hn : IsName n) : SlotFree n :=
  fun _ hc => ⟨by rintro rfl; exact hn.not_mem apart_isNameChar.1 (by decide) hc,
    by rintro rfl; exact hn.not_mem apart_isNameChar.2 (by decide) hc⟩

theorem slotFree_placeText {n : Text} (hn : IsName n) : SlotFree (Markup.placeText n) :=
  slotFree_append (t := ['{', '{']) (by decide) (slotFree_append hn.slotFree (by decide))

theorem slotFree_openText (kind : TagKind) {n : Text} (hn : IsName n) : SlotFree (Markup.openText kind n) := by
  have hend : SlotFree (n ++ [Point.char '}', '}']) := slotFree_append hn.slotFree (by decide)
  cases kind with
  | conditional => exact slotFree_append (t := ['{', '{', '#', 'i', 'f', ' ']) (by decide) hend
  | loop => exact slotFree_append (t := ['{', '{', '#', 'e', 'a', 'c', 'h', ' ']) (by decide) hend

/-- The written form of a tree of held texts is issued. -/
theorem Markup.issued_print {s : Slots} : ∀ {m : Markup}, m.Formed s.Held → Issued s.length m.print
  | done, _ => .nil
  | text _ _, ⟨ht, hr⟩ => ht.issued.append (issued_print hr)
  | place _ _, ⟨hn, _, hr⟩ => (issued_print hr).slotFree_append (slotFree_placeText hn)
  | when _ _ _, ⟨hn, hy, hr⟩ => by
    simp only [print, List.append_assoc]
    exact .slotFree_append ((issued_print hy).append (.slotFree_append (issued_print hr) (by decide)))
      (slotFree_openText _ hn)
  | choice _ _ _ _, ⟨hn, hy, hno, hr⟩ => by
    simp only [print, List.append_assoc]
    exact .slotFree_append ((issued_print hy).append (.slotFree_append ((issued_print hno).append
      (.slotFree_append (issued_print hr) (by decide))) (by decide))) (slotFree_openText _ hn)
  | each _ _ _, ⟨hn, hb, hr⟩ => by
    simp only [print, List.append_assoc]
    exact .slotFree_append ((issued_print hb).append (.slotFree_append (issued_print hr) (by decide)))
      (slotFree_openText _ hn)

/-! ## Weaving -/

/-- What is replaced in a resolved text. -/
inductive Inset where
  /-- A token with its digits. -/
  | token (digits : Text)
  | place (p : Placeholder)

/-- The token or the placeholder at the head of a text. -/
def inset? : Text.Recogniser Inset := fun t =>
  match slotDigits? t with
  | some (digits, width) => some (.token digits, width)
  | none => (placeholder? t).map fun (p, width) => (.place p, width)

namespace Slots

/-- What is put in the place of a token or a placeholder. -/
def insert (s : Slots) (vars : Fields) (metadata : Metadata) : Inset → Except TextFault Text
  | .token digits => .ok (s.valueOf digits)
  | .place p => substituteOne vars metadata p

/-- The text with its tokens and its placeholders replaced in one scan. -/
def weave (s : Slots) (vars : Fields) (metadata : Metadata) (t : Text) : Except TextFault Text :=
  Text.replaceM inset? (s.insert vars metadata) t

variable {s : Slots} {vars : Fields} {metadata : Metadata}

theorem weave_slotToken_append (i : Nat) (t : Text) :
    s.weave vars metadata (slotToken i ++ t) = (s.valueOf (Text.ofNat i) ++ ·) <$> s.weave vars metadata t := by
  have hread : inset? (slotToken i ++ t) = some (.token (Text.ofNat i), (slotToken i).length) := by
    simp [inset?, slotDigits?_slotToken]
  rw [weave, Text.replaceM, Text.pieces_item_append (by simp [slotToken]) hread]
  rfl

theorem slotDigits?_slotFree_append {u t : Text} (hu : SlotFree u) (hne : u ≠ []) : slotDigits? (u ++ t) = none := by
  obtain ⟨c, cs, rfl⟩ := List.exists_cons_of_ne_nil hne
  exact slotDigits?_of_head (hu c (by simp)).1 _

theorem weave_placeholder {p : Placeholder} {t : Text} (h : placeholder? (p.source ++ t) = some (p, p.source.length))
    (hne : p.source ≠ []) (hs : SlotFree p.source) : s.weave vars metadata (p.source ++ t) = do
      return (← substituteOne vars metadata p) ++ (← s.weave vars metadata t) := by
  have hread : inset? (p.source ++ t) = some (.place p, p.source.length) := by
    simp [inset?, slotDigits?_slotFree_append hs hne, h]
  rw [weave, Text.replaceM, Text.pieces_item_append hne hread]
  rfl

theorem weave_char {c : Point} {t : Text} (hc : c ≠ slotOpen) (h : placeholder? (c :: t) = none) :
    s.weave vars metadata (c :: t) = (c :: ·) <$> s.weave vars metadata t := by
  have hread : inset? (c :: t) = none := by simp [inset?, slotDigits?_of_head hc, h]
  rw [weave, Text.replaceM, Text.pieces_of_none hread]
  rfl

/-- A held text is woven into its own filling. -/
theorem weave_held_append {t : Text} (h : s.Held t) (u : Text) :
    s.weave vars metadata (t ++ u) = (s.fill t ++ ·) <$> s.weave vars metadata u := by
  obtain h | ⟨i, hi, rfl⟩ := h
  · have hread : ∀ a b, t = a ++ b → b ≠ [] → inset? (b ++ u) = none := by
      intro a b hab hb
      obtain ⟨c, cs, rfl⟩ := List.exists_cons_of_ne_nil hb
      have hc : c ∈ t := by simp [hab]
      simp [inset?, slotDigits?_of_head (slotFree_of_plain h c hc).1,
        braced_placeholder?.none_of_head (h.braceFree c hc)]
    rw [weave, Text.replaceM, Text.pieces_chars_append t u hread, Text.writeM_append, Text.writeM_chars, pure_bind,
      fill_slotFree (slotFree_of_plain h), bind_pure_comp]
    rfl
  · rw [weave_slotToken_append, fill_slotToken hi, valueOf_ofNat hi]

/-! ## Filling in two scans -/

theorem substitute_append {u t : Text} (h : pieces placeholder? (u ++ t) = u.map .char ++ pieces placeholder? t) :
    substitute (u ++ t) vars metadata = (u ++ ·) <$> substitute t vars metadata := by
  rw [substitute, Text.replaceM, h, Text.writeM_append, Text.writeM_chars, pure_bind, substitute, Text.replaceM,
    bind_pure_comp]

theorem substitute_placeholder {p : Placeholder} {t : Text}
    (h : placeholder? (p.source ++ t) = some (p, p.source.length)) (hne : p.source ≠ []) :
    substitute (p.source ++ t) vars metadata = do
      return (← substituteOne vars metadata p) ++ (← substitute t vars metadata) := by
  rw [substitute, Text.replaceM, Text.pieces_item_append hne h]
  rfl

/-- What may follow a text put in for a placeholder, so that no token starts in it. -/
structure Guard (value after : Text → Prop) : Prop where
  nil : after []
  slotFree {u t : Text} : SlotFree u → after t → after (u ++ t)
  token (i : Nat) (t : Text) : after (slotToken i ++ t)
  put {u t : Text} : value u → after t → after (u ++ t)
  unread {u t : Text} : value u → after t → Unread u t

/-- Texts without the opening slot character may stand before any text. -/
theorem guard_not_open : Guard (slotOpen ∉ ·) fun _ => True where
  nil := trivial
  slotFree _ _ := trivial
  token _ _ := trivial
  put _ _ := trivial
  unread h _ := unread_of_not_open h _

/-- Texts without the closing slot character may stand where none comes first after digits. -/
theorem guard_not_close : Guard (slotClose ∉ ·) NoEarlyClose where
  nil := by simp [NoEarlyClose]
  slotFree hu ht := noEarlyClose_append ht fun hm => (hu _ hm).2 rfl
  token := noEarlyClose_slotToken
  put hu ht := noEarlyClose_append ht hu
  unread hu ht := unread_of_not_close hu ht

/-- The printed values that placeholders may be filled with meet a condition. -/
def Shows (vars : Fields) (metadata : Metadata) (value : Text → Prop) : Prop :=
  ∀ name v u, placeholderValue? vars metadata name = some v → v.printed = .ok u → value u

/-- Filling the placeholders of a text and then its tokens weaves it, both fail alike, and the tokens that are too long
are those of the text. -/
def Woven (s : Slots) (vars : Fields) (metadata : Metadata) (after : Text → Prop) (t : Text) : Prop :=
  match substitute t vars metadata with
  | .error fault => s.weave vars metadata t = .error fault
  | .ok filled => s.weave vars metadata t = .ok (s.fill filled) ∧ after filled ∧ overlong? filled = overlong? t

section Woven

variable {value after : Text → Prop} {t u : Text}

theorem Woven.char (hg : Guard value after) {c : Point} (hopen : c ≠ slotOpen) (hclose : c ≠ slotClose)
    (hread : placeholder? (c :: t) = none) (h : Woven s vars metadata after t) :
    Woven s vars metadata after (c :: t) := by
  have hfree : SlotFree [c] := by simp [SlotFree, hopen, hclose]
  have hsub : substitute (c :: t) vars metadata = (c :: ·) <$> substitute t vars metadata :=
    substitute_append (u := [c]) (Text.pieces_of_none hread)
  unfold Woven at h ⊢
  rw [hsub, weave_char hopen hread]
  cases ht : substitute t vars metadata with
  | error fault =>
    rw [ht] at h
    have hw : s.weave vars metadata t = .error fault := h
    rw [hw]
    rfl
  | ok filled =>
    rw [ht] at h
    obtain ⟨hw, ha, hl⟩ := h
    have hunread := unread_of_slotFree hfree filled
    refine ⟨?_, hg.slotFree hfree ha, ?_⟩
    · rw [hw]
      exact congrArg Except.ok (hunread.fill_append s).symm
    · exact hunread.overlong?_append.trans (hl.trans (unread_of_slotFree hfree t).overlong?_append.symm)

theorem Woven.token (hg : Guard value after) (i : Nat) (h : Woven s vars metadata after t) :
    Woven s vars metadata after (slotToken i ++ t) := by
  unfold Woven at h ⊢
  rw [substitute_append (Text.pieces_braceFree_append braced_placeholder? (braceFree_slotToken i) t),
    weave_slotToken_append]
  cases ht : substitute t vars metadata with
  | error fault =>
    rw [ht] at h
    have hw : s.weave vars metadata t = .error fault := h
    rw [hw]
    rfl
  | ok filled =>
    rw [ht] at h
    obtain ⟨hw, ha, hl⟩ := h
    refine ⟨?_, hg.token i filled, overlong?_slotToken_congr i hl⟩
    rw [hw, fill_slotToken_append]
    rfl

theorem Woven.put (hg : Guard value after) {p : Placeholder}
    (hread : placeholder? (p.source ++ t) = some (p, p.source.length)) (hne : p.source ≠ []) (hfree : SlotFree p.source)
    (hv : Shows vars metadata value) (h : Woven s vars metadata after t) :
    Woven s vars metadata after (p.source ++ t) := by
  unfold Woven at h ⊢
  rw [substitute_placeholder hread hne, weave_placeholder hread hne hfree]
  cases hp : substituteOne vars metadata p with
  | error fault => rfl
  | ok u =>
    cases ht : substitute t vars metadata with
    | error fault =>
      rw [ht] at h
      have hw : s.weave vars metadata t = .error fault := h
      rw [hw]
      rfl
    | ok filled =>
      rw [ht] at h
      obtain ⟨hw, ha, hl⟩ := h
      have hput : Unread u filled ∧ after (u ++ filled) := by
        unfold substituteOne at hp
        split at hp
        · rename_i v hshown
          have hu := hv _ _ _ hshown hp
          exact ⟨hg.unread hu ha, hg.put hu ha⟩
        · cases hp
          exact ⟨unread_of_slotFree hfree filled, hg.slotFree hfree ha⟩
      refine ⟨?_, hput.2, ?_⟩
      · rw [hw]
        exact congrArg Except.ok (hput.1.fill_append s).symm
      · exact hput.1.overlong?_append.trans (hl.trans (unread_of_slotFree hfree t).overlong?_append.symm)

/-- **Two scans are one.** Filling the placeholders of an issued text and then its tokens weaves it. -/
theorem woven_of_issued (hg : Guard value after) (hv : Shows vars metadata value) :
    ∀ t : Text, Issued s.length t → Woven s vars metadata after t := by
  intro t
  induction hn : t.length using Nat.strongRecOn generalizing t with
  | ind n ih =>
    subst hn
    intro ht
    cases ht with
    | nil => exact ⟨rfl, hg.nil, rfl⟩
    | token _ ht' => exact (ih _ (by simp [slotToken]; omega) _ rfl ht').token hg _
    | @char c t' hopen hclose ht' =>
      cases hread : placeholder? (c :: t') with
      | none => exact (ih _ (by simp) _ rfl ht').char hg hopen hclose hread
      | some found =>
        obtain ⟨p, width⟩ := found
        obtain ⟨rest, hsplit, rfl, hne, hfree⟩ := placeholder?_eq_some hread
        have hlt : rest.length < (c :: t').length := by
          have := List.length_pos_iff.2 hne
          rw [hsplit, List.length_append]
          omega
        have hissued : Issued s.length (p.source ++ rest) := hsplit ▸ Issued.char hopen hclose ht'
        rw [hsplit] at hread ⊢
        exact (ih _ hlt _ rfl (hissued.of_slotFree_append hfree)).put hg hread hne hfree hv

end Woven

end Slots

end Stencil
