import Stencil.Proofs.Markup.Cut

/-!
# Trees with loose markers

A template may hold opening tags that are never closed, and markers between branches that split nothing. Here they are
texts of a tree.

* **Loose trees** (`Loose`): formed, but for opening tags outside of all conditionals and loops, and for markers between
  branches there and in the second branches of conditionals.
* The scan for a closing marker goes through them: in the second branch it has found its marker between the branches
  before (`scan_loose`), and behind an opening tag it comes to the end of the text without a match (`Endless`).
* Hence the readers of conditionals and of loops find in a written loose tree what they find in a formed one
  (`pieces_loose`).
-/

namespace Stencil

open Text (BraceFree pieces)

namespace Markup

variable {p q : Text → Prop}

/-! ## Loose trees -/

/-- Which branch of a conditional with two a place stands in. -/
inductive Branch where
  /-- It stands outside of all conditionals. -/
  | outside
  | first
  | second
  deriving DecidableEq

/-- The markers that may stand alone at a place. -/
def Branch.Stray : Branch → Text → Prop
  | outside, t => t = elseText ∨ ∃ kind n, IsName n ∧ t = openText kind n
  | first, _ => False
  | second, t => t = elseText

/-- Formed up to the markers that stand alone. Conditionals with one branch and loops are formed. -/
inductive Loose (p : Text → Prop) : Branch → Markup → Prop
  | formed {l : Branch} {m : Markup} : m.Formed p → Loose p l m
  | append {l : Branch} {a b : Markup} : Loose p l a → Loose p l b → Loose p l (a ++ b)
  | stray {l : Branch} {t : Text} : l.Stray t → Loose p l (text t done)
  | choice {l : Branch} {n : Text} {yes no : Markup} : IsName n → Loose p .first yes → Loose p .second no →
      Loose p l (choice n yes no done)

variable {l : Branch} {m : Markup}

theorem Loose.mono (hpq : ∀ t, p t → q t) (hm : m.Loose p l) : m.Loose q l := by
  induction hm with
  | formed h => exact .formed (h.mono hpq)
  | append _ _ iha ihb => exact .append iha ihb
  | stray ht => exact .stray ht
  | choice hn _ _ ihy ihno => exact .choice hn ihy ihno

/-- What may stand in a branch may stand outside. -/
theorem Loose.outside (hm : m.Loose p l) : m.Loose p .outside := by
  induction hm with
  | formed h => exact .formed h
  | append _ _ iha ihb => exact .append iha ihb
  | @stray l t ht =>
    refine .stray ?_
    cases l with
    | outside => exact ht
    | first => exact ht.elim
    | second => exact .inl ht
  | choice hn hy hno _ _ => exact .choice hn hy hno

/-- Loops have formed bodies. -/
theorem Loose.bodies (hm : m.Loose p l) : m.Bodies (Formed p) := by
  induction hm with
  | formed h => exact h.bodies
  | append _ _ iha ihb => exact bodies_append.2 ⟨iha, ihb⟩
  | stray _ => trivial
  | choice _ _ _ ihy ihno => exact ⟨ihy, ihno, trivial⟩

end Markup

open Markup

/-! ## Scans -/

namespace Markers

variable {kind : TagKind} {l : Branch} {m : Markup} {s : Text} {pos d : Nat} {e : Option Nat}

/-- The scan of a kind goes through a tree in a branch. In the second branch it is deeper than one, or it has found the
marker between the branches before. -/
theorem scan_loose (kind : TagKind) (hm : m.Loose BraceFree l) :
    l ≠ .outside → ∀ (s : Text) (pos d : Nat) (e : Option Nat), 1 ≤ d →
    (kind = .conditional → l = .second → d ≠ 1 ∨ e.isSome) →
    kind.markers.scan (m.print ++ s) ⟨pos, 0, d, e⟩ = kind.markers.scan s ⟨pos + m.print.length, 0, d, e⟩ := by
  induction hm with
  | formed h => exact fun _ s pos d e hd _ => scan_print _ s pos d h hd
  | append _ _ iha ihb =>
    intro hl s pos d e hd hsecond
    rw [print_append, List.append_assoc, iha hl _ _ _ _ hd hsecond, ihb hl _ _ _ _ hd hsecond, List.length_append,
      Nat.add_assoc]
  | @stray l t ht =>
    intro hl s pos d e hd hsecond
    cases l with
    | outside => exact absurd rfl hl
    | first => exact ht.elim
    | second =>
      cases ht
      simpa only [print, List.append_nil] using scan_elseText (fun hk => hsecond hk rfl) s
  | @choice l n yes no hn _ _ ihy ihno =>
    intro _ s pos d e hd _
    have hin := Nat.le_trans hd (le_inside kind .conditional d)
    have hdeep : kind = .conditional → inside kind .conditional d ≠ 1 ∨ e.isSome := by
      rintro rfl
      simp only [inside, if_true]
      omega
    have hyes := ihy (by decide) (elseText ++ (no.print ++ (conditionalMarkers.closing ++ s)))
      (pos + (openText .conditional n).length) _ e hin fun _ h => by cases h
    simp only [print, List.append_assoc, List.append_nil]
    rw [scan_openText _ hn, hyes, scan_elseText hdeep, ihno (by decide) _ _ _ _ hin fun hk _ => hdeep hk,
      scan_closing .conditional hd]
    simp only [List.length_append, TagKind.markers]
    congr 2
    omega

/-- A scan at depth one or more comes to the end of the text without a match. -/
def Endless (m : Markers) (s : Text) : Prop := ∀ pos d e, 1 ≤ d → ∃ p, m.scan s ⟨pos, 0, d, e⟩ = .ok p

theorem endless_nil (m : Markers) : m.Endless [] := fun _ _ _ _ => ⟨_, rfl⟩

/-- A marker between two branches is passed over or taken; a match it does not make. -/
theorem Endless.elseText (hs : kind.markers.Endless s) : kind.markers.Endless (Markup.elseText ++ s) := by
  intro pos d e hd
  by_cases h : kind = .conditional → d ≠ 1 ∨ e.isSome
  · rw [scan_elseText h]
    exact hs _ d e hd
  · rw [Classical.not_imp, not_or, Classical.not_not] at h
    obtain ⟨rfl, rfl, he⟩ := h
    cases e with
    | none =>
      rw [TagKind.markers, scan_elseText_one]
      exact hs _ 1 _ hd
    | some first => exact absurd rfl he

/-- An opening tag leaves the depth as it is or raises it. -/
theorem Endless.openText (hs : kind.markers.Endless s) (kind' : TagKind) {n : Text} (hn : IsName n) :
    kind.markers.Endless (Markup.openText kind' n ++ s) := by
  intro pos d e hd
  rw [scan_openText kind' hn]
  exact hs _ _ e (Nat.le_trans hd (le_inside kind kind' d))

/-- What goes through the text after a tree goes through the tree. -/
theorem Endless.print (hm : m.Loose BraceFree l) : ∀ {s : Text}, kind.markers.Endless s →
    kind.markers.Endless (m.print ++ s) := by
  induction hm with
  | formed h =>
    intro s hs pos d e hd
    rw [scan_print _ _ _ _ h hd]
    exact hs _ d e hd
  | append _ _ iha ihb =>
    intro s hs
    rw [print_append, List.append_assoc]
    exact iha (ihb hs)
  | @stray l t ht =>
    intro s hs
    simp only [Markup.print, List.append_nil]
    cases l with
    | outside =>
      obtain rfl | ⟨kind', n, hn, rfl⟩ := ht
      · exact hs.elseText
      · exact hs.openText kind' hn
    | first => exact ht.elim
    | second =>
      cases ht
      exact hs.elseText
  | @choice l n yes no hn hy hno _ _ =>
    intro s hs pos d e hd
    rw [scan_loose kind (l := .first) (.choice hn hy hno) (by decide) _ _ _ _ hd fun _ h => by cases h]
    exact hs _ d e hd

/-- An opening tag of a kind that is not closed has no match. -/
theorem matchFrom_unclosed (kind : TagKind) {n : Text} (hn : IsName n) (hs : kind.markers.Endless s) :
    kind.markers.matchFrom (Markup.openText kind n ++ s) 0 = none := by
  obtain ⟨p, hp⟩ := hs (Markup.openText kind n).length 1 none (Nat.le_refl 1)
  rw [matchFrom_openText kind hn, hp]
  rfl

end Markers

open Markers

namespace Markup

variable {α : Type} {l : Branch} {m : Markup} {n s : Text}

/-! ## Readers -/

theorem loop?_unclosed (hn : IsName n) (hs : loopMarkers.Endless s) : loop? (openText .loop n ++ s) = none := by
  have hmatch : loopMarkers.matchFrom (openText .loop n ++ s) 0 = none := matchFrom_unclosed .loop hn hs
  simp [loop?, hmatch]

theorem conditional?_unclosed (hn : IsName n) (hs : conditionalMarkers.Endless s) :
    conditional? (openText .conditional n ++ s) = none := by
  have hmatch : conditionalMarkers.matchFrom (openText .conditional n ++ s) 0 = none :=
    matchFrom_unclosed .conditional hn hs
  simp [conditional?, hmatch]

theorem conditional?_loop (n s : Text) : conditional? (openText .loop n ++ s) = none := by
  have hkind : TagKind.conditional ≠ .loop := by decide
  simp [conditional?, openTagOf?_of_ne hkind]

theorem conditional?_loose {yes no : Markup} (hn : IsName n) (hy : yes.Loose BraceFree .first)
    (hno : no.Loose BraceFree .second) :
    conditional? (openText .conditional n ++
        (yes.print ++ (elseText ++ (no.print ++ (conditionalMarkers.closing ++ s)))))
      = some (⟨n, yes.print, some no.print⟩, (choice n yes no done).print.length) := by
  have hyes : conditionalMarkers.Passes yes.print (elseText ++ (no.print ++ (conditionalMarkers.closing ++ s))) :=
    fun pos e => scan_loose .conditional hy (by decide) _ pos 1 e (Nat.le_refl 1) fun _ h => by cases h
  rw [conditional?_written_choice hn hyes fun pos first =>
    scan_loose .conditional hno (by decide) _ pos 1 (some first) (Nat.le_refl 1) fun _ _ => .inr rfl]
  simp [print]

/-- A reader of nodes that reads conditionals with loose branches too, and no tags that are not closed. -/
structure ReadsLoose (read : Text.Recogniser α) (node : Markup → Option α) : Prop
    extends ReadsNodes read node none where
  loose : ∀ n yes no s, IsName n → yes.Loose BraceFree .first → no.Loose BraceFree .second →
    read (openText .conditional n ++ (yes.print ++ (elseText ++ (no.print ++ (conditionalMarkers.closing ++ s)))))
      = (node (.choice n yes no done)).map fun a => (a, (Markup.choice n yes no done).print.length)
  unclosed : ∀ kind n s, IsName n → (∀ kind' : TagKind, kind'.markers.Endless s) →
    read (openText kind n ++ s) = none

theorem readsLoose_loop? : ReadsLoose loop? loopNode where
  toReadsNodes := reads_loop?
  loose _ _ _ _ _ _ _ := loop?_conditional _ _
  unclosed kind n s hn hs := by
    cases kind with
    | conditional => exact loop?_conditional n s
    | loop => exact loop?_unclosed hn (hs .loop)

theorem readsLoose_block? (w : Bool) : ReadsLoose (block? w) (blockNode w) where
  toReadsNodes := reads_block? w
  loose n yes no s hn hy hno := by
    simp only [block?, loop?_conditional, conditional?_loose hn hy hno]
    cases w <;> rfl
  unclosed kind n s hn hs := by
    cases kind with
    | conditional => simp [block?, loop?_conditional, conditional?_unclosed hn (hs .conditional)]
    | loop => simp [block?, loop?_unclosed hn (hs .loop), conditional?_loop]

/-! ## Pieces -/

theorem cut_append (node : Markup → Option α) (split : Option α) (b : Markup) : ∀ a : Markup,
    (a ++ b).cut node split = a.cut node split ++ b.cut node split
  | done => rfl
  | text t rest => by simp [cut, cut_append node split b rest]
  | place n rest => by simp [cut, cut_append node split b rest]
  | when n yes rest => by simp [cut, cut_append node split b rest]
  | choice n yes no rest => by simp [cut, cut_append node split b rest]
  | each n body rest => by simp [cut, cut_append node split b rest]

variable {read : Text.Recogniser α} {node : Markup → Option α}

/-- The pieces of a written loose tree are those of the cut tree. Outside of all conditionals they are so only if the
text after the tree closes none of its tags. -/
theorem pieces_loose (h : ReadsLoose read node) (hm : m.Loose BraceFree l) :
    ∀ s, (l = .outside → ∀ kind : TagKind, kind.markers.Endless s) →
      pieces read (m.print ++ s) = m.cut node none ++ pieces read s := by
  induction hm with
  | formed hm => exact fun s _ => pieces_print h.toReadsNodes _ s hm
  | @append l a b _ hb iha ihb =>
    intro s hs
    rw [print_append, List.append_assoc, iha _ fun hl kind => .print hb (hs hl kind), ihb s hs, cut_append,
      List.append_assoc]
  | @stray l t ht =>
    intro s hs
    have helse : pieces read (elseText ++ s) = elseText.map .char ++ pieces read s :=
      pieces_elseText h.braced (h.split s)
    simp only [print, cut, List.append_nil]
    cases l with
    | outside =>
      obtain rfl | ⟨kind, n, hn, rfl⟩ := ht
      · exact helse
      · exact pieces_openText h.braced kind hn (h.unclosed kind n s hn (hs rfl))
    | first => exact ht.elim
    | second =>
      cases ht
      exact helse
  | @choice l n yes no hn hy hno ihy ihno =>
    intro s _
    have hread := h.loose n yes no s hn hy hno
    cases hnode : node (choice n yes no done) with
    | some a =>
      rw [hnode] at hread
      have hitem : read ((choice n yes no done).print ++ s) = some (a, (choice n yes no done).print.length) := by
        simpa [print, List.append_assoc] using hread
      rw [Text.pieces_item_append (by simp [print, openText_ne_nil]) hitem]
      simp [cut, hnode]
    | none =>
      rw [hnode] at hread
      simp only [print, cut, hnode, List.append_assoc, List.append_nil]
      rw [pieces_openText h.braced _ hn hread, ihy _ fun hl => (by cases hl), h.pieces_split,
        ihno _ fun hl => (by cases hl), pieces_closing h.braced .conditional (h.closing .conditional _)]

/-- The pieces of a whole template. -/
theorem pieces_loose_whole (h : ReadsLoose read node) (hm : m.Loose BraceFree l) :
    pieces read m.print = m.cut node none := by
  have hp := pieces_loose h hm [] fun _ kind => endless_nil kind.markers
  rwa [List.append_nil, Text.pieces_nil, List.append_nil] at hp

end Markup

end Stencil
