import Stencil.Proofs.Markup.Closed
import Stencil.Proofs.Markup.Cut
import Stencil.Proofs.Slots.Renumbering
import Stencil.Proofs.Slots.Weaving

/-!
# Readers do not look into tokens

* The match of a tag is at the same markers in renumbered texts (`Markers.matchFrom_renumbered`): a scan passes tokens
  as a whole, and all else is equal.
* Hence loops, conditionals and placeholders are read alike (`ReadsAlike`), and renumbered texts are cut into the same
  pieces up to their tokens (`PiecesAlike`, `pieces_renumbered`).
* What is written for such pieces is renumbered again (`PiecesAlike.flatMap`), and so is what a turn over the
  conditionals leaves (`resolveConditionals_renumbered`).
-/

namespace Stencil

open Markup (elseText)
open Renumbered (SamePlace)
open Text (Braced Ended pieces Recogniser)

variable {n k k' : Nat} {t t' s s' u name : Text} {kind : TagKind}

theorem Closes.slotFree {p : Point → Bool} (hp : Apart p) {name u : Text} (h : Closes p name u) : SlotFree u := by
  obtain ⟨hn, before, after, hbefore, hafter, rfl⟩ := h
  exact slotFree_append (hp.slotFree hbefore) (slotFree_append hn.slotFree
    (slotFree_append (hp.slotFree hafter) (by decide)))

theorem TagKind.Writes.slotFree (h : kind.Writes name u) : SlotFree u := by
  obtain ⟨inside, hinside, rfl⟩ := h
  have hfree : SlotFree (' ' :: inside) :=
    slotFree_append (t := [' ']) (by decide) (hinside.slotFree ⟨by decide, by decide⟩)
  cases kind with
  | conditional => exact slotFree_append (t := ['{', '{', '#', 'i', 'f']) (by decide) hfree
  | loop => exact slotFree_append (t := ['{', '{', '#', 'e', 'a', 'c', 'h']) (by decide) hfree

/-! ## Matching -/

namespace Markers

/-- A marker of so many characters, in both texts. -/
structure SameMarker (n k k' : Nat) (t t' : Text) (length pos pos' : Nat) : Prop where
  start : SamePlace n k k' t t' pos pos'
  stop : SamePlace n k k' t t' (pos + length) (pos' + length)

/-- Matches at the same markers of both texts. -/
structure SameMatch (m : Markers) (n k k' : Nat) (t t' : Text) (found found' : TagMatch) : Prop where
  close : SameMarker n k k' t t' m.closing.length found.closePos found'.closePos
  split : Option.Rel (SameMarker n k k' t t' m.alternativeLength) found.elsePos found'.elsePos

/-- A text without slot characters, between renumbered ones. -/
theorem sameMarker_append {a a' w r r' : Text} (ha : Renumbered n k k' a a') (hw : SlotFree w)
    (hr : Renumbered n k k' r r') :
    SameMarker n k k' (a ++ (w ++ r)) (a' ++ (w ++ r')) w.length a.length a'.length where
  start := SamePlace.of_append ha ((Renumbered.of_slotFree n k k' hw).append hr)
  stop := by
    have := SamePlace.of_append (ha.append (Renumbered.of_slotFree n k k' hw)) hr
    rwa [List.append_assoc, List.append_assoc, List.length_append, List.length_append] at this

theorem slotFree_opening (kind : TagKind) : SlotFree kind.markers.opening := by cases kind <;> decide

theorem slotFree_closing (kind : TagKind) : SlotFree kind.markers.closing := by cases kind <;> decide

theorem slotFree_elseText : SlotFree elseText := by decide

/-- A place without a marker is passed over. -/
theorem step_of_no_marker {pos d : Nat} {e : Option Nat} (hopening : ¬kind.markers.opening <+: t)
    (hclosing : ¬kind.markers.closing <+: t) (helse : ¬elseText <+: t) :
    kind.markers.step t ⟨pos, 0, d, e⟩ = .ok ⟨pos + 1, 0, d, e⟩ := by
  rw [← List.isPrefixOf_iff_prefix, Bool.not_eq_true] at hopening hclosing helse
  have hsplits : kind.markers.splitsHere d e t = false := by
    cases kind with
    | loop => rfl
    | conditional =>
      have : List.isPrefixOf [Point.char '{', '{', 'e', 'l', 's', 'e', '}', '}'] t = false := helse
      simp [splitsHere, conditionalMarkers, this]
  simp [step, hopening, hclosing, hsplits]

theorem rel_keepFirst {d pos pos' : Nat} {e e' : Option Nat}
    (he : Option.Rel (SameMarker n k k' t t' kind.markers.alternativeLength) e e')
    (hmarker : SameMarker n k k' t t' elseText.length pos pos') :
    Option.Rel (SameMarker n k k' t t' kind.markers.alternativeLength) (keepFirst kind d e pos)
      (keepFirst kind d e' pos') := by
  cases he with
  | some h =>
    simp only [keepFirst, reduceCtorEq, and_false, if_false]
    exact .some h
  | none =>
    unfold keepFirst
    split
    · rename_i hfirst
      obtain ⟨rfl, -, -⟩ := hfirst
      exact .some hmarker
    · exact .none

/-- Where the first scan finds a match, the second one finds the same. -/
def FindsAlike (m : Markers) (n k k' : Nat) (t t' : Text) (x y : Except TagMatch Progress) : Prop :=
  ∀ found, x = .error found → ∃ found', y = .error found' ∧ m.SameMatch n k k' t t' found found'

/-- **Scans of renumbered texts** find the same match, from the same place and depth. -/
theorem scan_renumbered : ∀ (s a : Text) {s' a' : Text} {d : Nat} {e e' : Option Nat},
    t = a ++ s → t' = a' ++ s' → Renumbered n k k' a a' → Renumbered n k k' s s' → 1 ≤ d →
    Option.Rel (SameMarker n k k' t t' kind.markers.alternativeLength) e e' →
    kind.markers.FindsAlike n k k' t t' (kind.markers.scan s ⟨a.length, 0, d, e⟩)
      (kind.markers.scan s' ⟨a'.length, 0, d, e'⟩) := by
  intro s
  induction hlen : s.length using Nat.strongRecOn generalizing s with
  | ind len ih =>
    subst hlen
    intro a s' a' d e e' ht ht' ha hs hd he
    -- what both scans find after passing over renumbered texts
    have next : ∀ {w w' r r' : Text} {d₁ : Nat} {e₁ e₁' : Option Nat}, s = w ++ r → s' = w' ++ r' → w ≠ [] →
        Renumbered n k k' w w' → Renumbered n k k' r r' → 1 ≤ d₁ →
        Option.Rel (SameMarker n k k' t t' kind.markers.alternativeLength) e₁ e₁' →
        kind.markers.FindsAlike n k k' t t' (kind.markers.scan r ⟨a.length + w.length, 0, d₁, e₁⟩)
          (kind.markers.scan r' ⟨a'.length + w'.length, 0, d₁, e₁'⟩) := by
      rintro w w' r r' d₁ e₁ e₁' rfl rfl hne hw hr hd₁ he₁
      have hlt : r.length < (w ++ r).length := by
        have := List.length_pos_iff.2 hne
        rw [List.length_append]
        omega
      rw [← List.length_append, ← List.length_append]
      refine ih r.length hlt r rfl (a ++ w) ?_ ?_ (ha.append hw) hr hd₁ he₁
      · rw [ht, List.append_assoc]
      · rw [ht', List.append_assoc]
    cases hs with
    | nil => exact fun found hscan => by cases hscan
    | @token i r r' hi hr =>
      rw [scan_braceFree _ _ _ (braceFree_slotToken _), scan_braceFree _ _ _ (braceFree_slotToken _)]
      exact next rfl rfl (by simp [slotToken]) (.of_token k k' hi) hr hd he
    | @char c r r' hopen hclose hr =>
      have hs : Renumbered n k k' (c :: r) (c :: r') := .char hopen hclose hr
      by_cases hopening : kind.markers.opening <+: c :: r
      · obtain ⟨v, hv⟩ := hopening
        obtain ⟨v', hv', hrest⟩ := Renumbered.slotFree_tail (slotFree_opening kind) (hv ▸ hs)
        rw [← hv, hv', scan_opening, scan_opening]
        exact next hv.symm hv' (by cases kind <;> decide) (.of_slotFree n k k' (slotFree_opening kind)) hrest
          (Nat.le_add_left 1 d) he
      by_cases hclosing : kind.markers.closing <+: c :: r
      · obtain ⟨v, hv⟩ := hclosing
        obtain ⟨v', hv', hrest⟩ := Renumbered.slotFree_tail (slotFree_closing kind) (hv ▸ hs)
        obtain ⟨d₁, rfl⟩ := Nat.exists_eq_add_of_le' hd
        by_cases hdeep : 1 ≤ d₁
        · rw [← hv, hv', scan_closing_deep kind hdeep, scan_closing_deep kind hdeep]
          exact next hv.symm hv' (by cases kind <;> decide) (.of_slotFree n k k' (slotFree_closing kind)) hrest hdeep he
        · obtain rfl : d₁ = 0 := Nat.eq_zero_of_not_pos hdeep
          rw [← hv, hv', Nat.zero_add, scan_closing_one, scan_closing_one]
          rintro found ⟨⟩
          refine ⟨⟨a'.length, e'⟩, rfl, ?_, he⟩
          rw [ht, ht', ← hv, hv']
          exact sameMarker_append ha (slotFree_closing kind) hrest
      by_cases helse : elseText <+: c :: r
      · obtain ⟨v, hv⟩ := helse
        obtain ⟨v', hv', hrest⟩ := Renumbered.slotFree_tail slotFree_elseText (hv ▸ hs)
        have hmarker : SameMarker n k k' t t' elseText.length a.length a'.length := by
          rw [ht, ht', ← hv, hv']
          exact sameMarker_append ha slotFree_elseText hrest
        rw [← hv, hv', scan_elseText_keep, scan_elseText_keep]
        exact next hv.symm hv' (by decide) (.of_slotFree n k k' slotFree_elseText) hrest hd (rel_keepFirst he hmarker)
      · have hfree : SlotFree [c] := by simp [SlotFree, hopen, hclose]
        have hopening' : ¬kind.markers.opening <+: c :: r' := by
          rwa [← Renumbered.prefix_iff (slotFree_opening kind) hs]
        have hclosing' : ¬kind.markers.closing <+: c :: r' := by
          rwa [← Renumbered.prefix_iff (slotFree_closing kind) hs]
        have helse' : ¬elseText <+: c :: r' := by
          rwa [← Renumbered.prefix_iff slotFree_elseText hs]
        rw [scan_cons (step_of_no_marker hopening hclosing helse),
          scan_cons (step_of_no_marker hopening' hclosing' helse')]
        exact next (w := [c]) rfl rfl (by simp) (.of_slotFree n k k' hfree) hr hd he

/-- **The match of a tag** is at the same markers of renumbered texts. -/
theorem matchFrom_renumbered {found : TagMatch} (hu : kind.Writes name u) (hs : Renumbered n k k' s s')
    (h : kind.markers.matchFrom (u ++ s) 0 = some found) : ∃ found', kind.markers.matchFrom (u ++ s') 0 = some found' ∧
      SameMatch kind.markers n k k' (u ++ s) (u ++ s') found found' := by
  rw [matchFrom_writes hu] at h ⊢
  cases hscan : kind.markers.scan s ⟨u.length, 0, 1, none⟩ with
  | ok p =>
    rw [hscan] at h
    cases h
  | error found₁ =>
    rw [hscan] at h
    cases h
    have hprefix : Renumbered n k k' u u := .of_slotFree n k k' hu.slotFree
    obtain ⟨found', hscan', hsame⟩ := scan_renumbered s u rfl rfl hprefix hs (Nat.le_refl 1) .none _ hscan
    exact ⟨found', by rw [hscan']; rfl, hsame⟩

end Markers

/-! ## Reading -/

/-- A reader reads related items off renumbered texts, up to the same place. -/
def ReadsAlike {α : Type} (read : Recogniser α) (rel : Nat → Nat → Nat → α → α → Prop) : Prop :=
  ∀ {n k k' : Nat} {t t' : Text} {a : α} {width : Nat}, Renumbered n k k' t t' → read t = some (a, width) →
    ∃ a' width', read t' = some (a', width') ∧ rel n k k' a a' ∧ SamePlace n k k' t t' width width'

/-- Loops over one name, with renumbered bodies. -/
structure Loop.Alike (n k k' : Nat) (l l' : Loop) : Prop where
  name : l.name = l'.name
  body : Renumbered n k k' l.body l'.body

/-- Conditionals on one name, with renumbered branches. -/
structure Conditional.Alike (n k k' : Nat) (c c' : Conditional) : Prop where
  name : c.name = c'.name
  yes : Renumbered n k k' c.yes c'.yes
  no : Option.Rel (Renumbered n k k') c.no c'.no

/-- Blocks of one kind, with renumbered texts. -/
inductive Block.Alike (n k k' : Nat) : Block → Block → Prop
  | loop {source source' : Text} : Renumbered n k k' source source' → Alike n k k' (.loop source) (.loop source')
  | choice {c c' : Conditional} : c.Alike n k k' c' → Alike n k k' (.choice c) (.choice c')

/-- A tag that is closed in one of two renumbered texts is closed in the other one. -/
theorem ClosedTag.renumbered {tag : OpenTag} {found : TagMatch} (ht : Renumbered n k k' t t')
    (h : ClosedTag kind t tag found) : SamePlace n k k' t t' tag.width tag.width ∧
      ∃ found', ClosedTag kind t' tag found' ∧ kind.markers.SameMatch n k k' t t' found found' := by
  obtain ⟨u, hu, htag, s, rfl⟩ := openTagOf?_eq_some_iff.1 h.opening
  obtain ⟨s', rfl, hs⟩ := Renumbered.slotFree_tail hu.slotFree ht
  obtain ⟨found', hfound', hsame⟩ := Markers.matchFrom_renumbered hu hs h.matched
  have hwidth : tag.width = u.length := congrArg OpenTag.width htag
  rw [hwidth]
  exact ⟨SamePlace.of_append (.of_slotFree n k k' hu.slotFree) hs, found',
    ⟨openTagOf?_eq_some_iff.2 ⟨u, hu, htag, s', rfl⟩, hfound'⟩, hsame⟩

theorem readsAlike_loop? : ReadsAlike loop? Loop.Alike := by
  intro n k k' t t' l width ht h
  obtain ⟨tag, found, hclosed, rfl, rfl⟩ := loop?_eq_some_iff.1 h
  obtain ⟨hstart, found', hclosed', hsame⟩ := hclosed.renumbered ht
  exact ⟨_, _, loop?_eq_some_iff.2 ⟨tag, found', hclosed', rfl, rfl⟩, ⟨rfl, hstart.slice hsame.close.start⟩,
    hsame.close.stop⟩

theorem readsAlike_conditional? : ReadsAlike conditional? Conditional.Alike := by
  intro n k k' t t' c width ht h
  obtain ⟨tag, ⟨close, split⟩, hclosed, rfl, rfl⟩ := conditional?_eq_some_iff.1 h
  obtain ⟨hstart, ⟨close', split'⟩, hclosed', hclose, hsplit⟩ := hclosed.renumbered ht
  refine ⟨_, _, conditional?_eq_some_iff.2 ⟨tag, _, hclosed', rfl, rfl⟩, ?_, hclose.stop⟩
  cases hsplit with
  | none => exact ⟨rfl, hstart.slice hclose.start, .none⟩
  | some hmarker => exact ⟨rfl, hstart.slice hmarker.start, .some (hmarker.stop.slice hclose.start)⟩

theorem isSome_eq_of_rel {α β : Type} {r : α → β → Prop} {o : Option α} {o' : Option β} (h : Option.Rel r o o') :
    o.isSome = o'.isSome := by
  cases h <;> rfl

theorem readsAlike_block? (withElse : Bool) : ReadsAlike (block? withElse) Block.Alike := by
  intro n k k' t t' b width ht h
  rcases block?_eq_some_iff.1 h with ⟨rfl, l, hl⟩ | ⟨c, rfl, hno, hc⟩
  · obtain ⟨l', width', hl', -, hplace⟩ := readsAlike_loop? ht hl
    exact ⟨_, width', block?_eq_some_iff.2 (.inl ⟨rfl, l', hl'⟩), .loop hplace.take, hplace⟩
  · obtain ⟨c', width', hc', halike, hplace⟩ := readsAlike_conditional? ht hc
    have hno' : c'.no.isSome = withElse := (isSome_eq_of_rel halike.no).symm.trans hno
    exact ⟨_, width', block?_eq_some_iff.2 (.inr ⟨c', rfl, hno', hc'⟩), .choice halike, hplace⟩

theorem readsAlike_placeholder? : ReadsAlike placeholder? fun _ _ _ p p' => p = p' ∧ SlotFree p.source := by
  intro n k k' t t' p width ht h
  obtain ⟨rest, -, -, -, hfree⟩ := placeholder?_eq_some h
  obtain ⟨hp, rfl, rest, rfl⟩ := placeholder?_eq_some_iff.1 h
  obtain ⟨rest', rfl, hrest⟩ := Renumbered.slotFree_tail hfree ht
  exact ⟨p, p.source.length, placeholder?_eq_some_iff.2 ⟨hp, rfl, rest', rfl⟩, ⟨rfl, hfree⟩,
    SamePlace.of_append (.of_slotFree n k k' hfree) hrest⟩

/-! ## Cutting -/

/-- Pieces of renumbered texts: renumbered characters, and related items. -/
inductive PiecesAlike {α : Type} (n k k' : Nat) (rel : α → α → Prop) : List (Piece α) → List (Piece α) → Prop
  | nil : PiecesAlike n k k' rel [] []
  | chars {u u' : Text} {ps ps' : List (Piece α)} : Renumbered n k k' u u' → PiecesAlike n k k' rel ps ps' →
      PiecesAlike n k k' rel (u.map .char ++ ps) (u'.map .char ++ ps')
  | item {a a' : α} {ps ps' : List (Piece α)} : rel a a' → PiecesAlike n k k' rel ps ps' →
      PiecesAlike n k k' rel (.item a :: ps) (.item a' :: ps')

section Pieces

variable {α : Type} {read : Recogniser α} {rel : Nat → Nat → Nat → α → α → Prop}

theorem ReadsAlike.none (hread : ReadsAlike read rel) (h : Renumbered n k k' t t') (hnone : read t = none) :
    read t' = none := by
  cases hread' : read t' with
  | none => rfl
  | some found =>
    obtain ⟨a, width, hsome, -, -⟩ := hread h.symm hread'
    rw [hnone] at hsome
    cases hsome

/-- **Renumbered texts are cut alike.** -/
theorem pieces_renumbered (hbraced : Braced read) (hended : Ended read '}') (hread : ReadsAlike read rel)
    (h : Renumbered n k k' t t') : PiecesAlike n k k' (rel n k k') (pieces read t) (pieces read t') := by
  induction hlen : t.length using Nat.strongRecOn generalizing t t' with
  | ind len ih =>
    subst hlen
    cases h with
    | nil => exact .nil
    | @token i r r' hi hr =>
      have hlt : r.length < (slotToken (k + i) ++ r).length := by
        rw [List.length_append]
        exact Nat.lt_add_of_pos_left (by simp [slotToken])
      rw [Text.pieces_braceFree_append hbraced (braceFree_slotToken _),
        Text.pieces_braceFree_append hbraced (braceFree_slotToken _)]
      exact .chars (.of_token k k' hi) (ih r.length hlt hr rfl)
    | @char c r r' hopen hclose hr =>
      have hs : Renumbered n k k' (c :: r) (c :: r') := .char hopen hclose hr
      cases hhead : read (c :: r) with
      | none =>
        have hfree : SlotFree [c] := by simp [SlotFree, hopen, hclose]
        rw [Text.pieces_of_none hhead, Text.pieces_of_none (hread.none hs hhead)]
        exact .chars (u := [c]) (.of_slotFree n k k' hfree) (ih r.length (Nat.lt_succ_self _) hr rfl)
      | some found =>
        obtain ⟨a, width⟩ := found
        obtain ⟨a', width', hhead', hrel, hplace⟩ := hread hs hhead
        obtain ⟨w, rfl⟩ : ∃ w, width = w + 1 := ⟨width - 1, (Nat.sub_add_cancel (hended.last_eq hhead).1).symm⟩
        obtain ⟨w', rfl⟩ : ∃ w', width' = w' + 1 := ⟨width' - 1, (Nat.sub_add_cancel (hended.last_eq hhead').1).symm⟩
        have hrest : Renumbered n k k' (r.drop w) (r'.drop w') := hplace.drop
        have hlt : (r.drop w).length < (c :: r).length := by
          rw [List.length_drop, List.length_cons]
          omega
        rw [Text.pieces_of_some hhead, Text.pieces_of_some hhead', Nat.add_sub_cancel, Nat.add_sub_cancel]
        exact .item hrel (ih _ hlt hrest rfl)

/-! ## Replacing -/

/-- What is written for related pieces is renumbered, if it is for related items. -/
theorem PiecesAlike.flatMap {r : α → α → Prop} {ps ps' : List (Piece α)} {write : Piece α → Text}
    (hchar : ∀ c, write (.char c) = [c])
    (hitem : ∀ a a', r a a' → Renumbered n k k' (write (.item a)) (write (.item a')))
    (h : PiecesAlike n k k' r ps ps') : Renumbered n k k' (ps.flatMap write) (ps'.flatMap write) := by
  have hchars : ∀ u : Text, (u.map Piece.char).flatMap write = u := by
    intro u
    rw [List.flatMap_map]
    simp [hchar]
  induction h with
  | nil => exact .nil
  | chars hu _ ih =>
    rw [List.flatMap_append, List.flatMap_append, hchars, hchars]
    exact hu.append ih
  | item hrel _ ih =>
    rw [List.flatMap_cons, List.flatMap_cons]
    exact (hitem _ _ hrel).append ih

end Pieces

theorem Conditional.Alike.branch {c c' : Conditional} (h : c.Alike n k k' c') (holds : Bool) :
    Renumbered n k k' (c.branch holds) (c'.branch holds) := by
  cases holds with
  | true => exact h.yes
  | false =>
    have hno := h.no
    simp only [Conditional.branch, Bool.false_eq_true, if_false]
    generalize c.no = o, c'.no = o' at hno
    cases hno with
    | none => exact .nil
    | some h => exact h

/-- **A turn over the conditionals** of renumbered texts leaves renumbered texts. -/
theorem resolveConditionals_renumbered (withElse : Bool) (holds : Text → Bool) (h : Renumbered n k k' t t') :
    Renumbered n k k' (resolveConditionals withElse holds t) (resolveConditionals withElse holds t') := by
  refine PiecesAlike.flatMap (fun _ => rfl) ?_ (pieces_renumbered (Markup.braced_block? withElse)
    (ended_block? withElse) (readsAlike_block? withElse) h)
  intro b b' hb
  cases hb with
  | loop hsource => exact hsource
  | @choice c c' hc =>
    show Renumbered n k k' (c.branch (holds c.name)) (c'.branch (holds c'.name))
    rw [← hc.name]
    exact hc.branch _

end Stencil
