import Stencil.Directive.Passes
import Stencil.Proofs.Markup.Matching

/-!
# The pieces of a written tree

* **Cut trees** (`cut`): a reader of items takes some nodes of a tree as items and steps into the others. What it does
  at single nodes (`ReadsNodes`) decides the pieces of the whole written tree, whatever follows it (`pieces_print`).
* The readers of a turn over conditionals (`reads_block?`), of loops (`reads_loop?`) and of placeholders
  (`reads_placeholder?`) each take the nodes of their kind.
-/

namespace Stencil

open Text (Braced BraceFree pieces)

namespace Markup

variable {α : Type}

/-! ## Cutting -/

/-- The pieces of the marker between two branches. -/
def splitPieces : Option α → List (Piece α)
  | some a => [.item a]
  | none => elseText.map .char

/-- The pieces of a tree for a reader that takes some nodes as items, and perhaps the marker between two branches. A
node is given without the nodes after it. -/
def cut (node : Markup → Option α) (split : Option α) : Markup → List (Piece α)
  | done => []
  | text t rest => t.map .char ++ rest.cut node split
  | place n rest =>
    (match node (place n done) with
    | some a => [.item a]
    | none => (placeText n).map .char) ++ rest.cut node split
  | when n yes rest =>
    (match node (when n yes done) with
    | some a => [.item a]
    | none => (openText .conditional n).map .char ++ yes.cut node split
        ++ conditionalMarkers.closing.map .char) ++ rest.cut node split
  | choice n yes no rest =>
    (match node (choice n yes no done) with
    | some a => [.item a]
    | none => (openText .conditional n).map .char ++ yes.cut node split
        ++ splitPieces split ++ no.cut node split ++ conditionalMarkers.closing.map .char) ++ rest.cut node split
  | each n body rest =>
    (match node (each n body done) with
    | some a => [.item a]
    | none => (openText .loop n).map .char ++ body.cut node split
        ++ loopMarkers.closing.map .char) ++ rest.cut node split

/-- A reader takes the given nodes as items of their written length, and nothing else that a tree is written with. -/
structure ReadsNodes (read : Text.Recogniser α) (node : Markup → Option α) (split : Option α) : Prop where
  braced : Braced read
  place : ∀ n s, IsName n →
    read (placeText n ++ s) = (node (place n done)).map fun a => (a, (placeText n).length)
  when : ∀ n yes s, IsName n → yes.Formed BraceFree →
    read (openText .conditional n ++ (yes.print ++ (conditionalMarkers.closing ++ s)))
      = (node (when n yes done)).map fun a => (a, (when n yes done).print.length)
  choice : ∀ n yes no s, IsName n → yes.Formed BraceFree → no.Formed BraceFree →
    read (openText .conditional n ++ (yes.print ++ (elseText ++ (no.print ++ (conditionalMarkers.closing ++ s)))))
      = (node (choice n yes no done)).map fun a => (a, (choice n yes no done).print.length)
  each : ∀ n body s, IsName n → body.Formed BraceFree →
    read (openText .loop n ++ (body.print ++ (loopMarkers.closing ++ s)))
      = (node (each n body done)).map fun a => (a, (each n body done).print.length)
  split : ∀ s, read (elseText ++ s) = split.map fun a => (a, elseText.length)
  closing : ∀ (kind : TagKind) s, read (kind.markers.closing ++ s) = none

/-! ## Tags that are no items -/

section Tags

variable {read : Text.Recogniser α} {s : Text}

theorem pieces_openText (hr : Braced read) (kind : TagKind) {n : Text} (hn : IsName n)
    (h : read (openText kind n ++ s) = none) :
    pieces read (openText kind n ++ s) = (openText kind n).map .char ++ pieces read s :=
  Text.pieces_tag_append hr (braceFree_openTail kind hn) h

theorem pieces_closing (hr : Braced read) (kind : TagKind) (h : read (kind.markers.closing ++ s) = none) :
    pieces read (kind.markers.closing ++ s) = kind.markers.closing.map .char ++ pieces read s := by
  rw [closing_eq] at h ⊢
  exact Text.pieces_tag_append hr (braceFree_closeTail kind) h

theorem pieces_elseText (hr : Braced read) (h : read (elseText ++ s) = none) :
    pieces read (elseText ++ s) = elseText.map .char ++ pieces read s :=
  Text.pieces_tag_append hr braceFree_elseTail h

theorem pieces_placeText (hr : Braced read) {n : Text} (hn : IsName n) (h : read (placeText n ++ s) = none) :
    pieces read (placeText n ++ s) = (placeText n).map .char ++ pieces read s := by
  obtain ⟨c, cs, rfl, -⟩ := hn.head
  exact Text.pieces_tag_append hr (braceFree_nameEnd hn) h

end Tags

variable {read : Text.Recogniser α} {node : Markup → Option α} {split : Option α}

/-- The marker between two branches, as an item or as characters. -/
theorem ReadsNodes.pieces_split (h : ReadsNodes read node split) (s : Text) :
    pieces read (elseText ++ s) = splitPieces split ++ pieces read s := by
  have hs := h.split s
  cases split with
  | some a => exact Text.pieces_item_append (by simp [elseText_eq]) hs
  | none => exact pieces_elseText h.braced hs

/-- The pieces of a written tree are those of the cut tree. -/
theorem pieces_print (h : ReadsNodes read node split) : ∀ (m : Markup) (s : Text), m.Formed BraceFree →
    pieces read (m.print ++ s) = m.cut node split ++ pieces read s
  | done, _, _ => rfl
  | text t rest, s, ⟨ht, hr⟩ => by
    rw [print, List.append_assoc, Text.pieces_braceFree_append h.braced ht, pieces_print h rest s hr, cut,
      List.append_assoc]
  | place n rest, s, ⟨hn, _, hr⟩ => by
    have hread := h.place n (rest.print ++ s) hn
    have ih := pieces_print h rest s hr
    simp only [print, cut, List.append_assoc]
    cases hnode : node (place n done) with
    | some a =>
      rw [hnode] at hread
      rw [Text.pieces_item_append (by simp [placeText]) hread, ih]
      rfl
    | none =>
      rw [hnode] at hread
      rw [pieces_placeText h.braced hn hread, ih]
  | when n yes rest, s, ⟨hn, hy, hr⟩ => by
    have hread := h.when n yes (rest.print ++ s) hn hy
    have ih := pieces_print h rest s hr
    simp only [print, cut, List.append_assoc]
    cases hnode : node (when n yes done) with
    | some a =>
      rw [hnode] at hread
      have hitem : read ((when n yes done).print ++ (rest.print ++ s)) = some (a, (when n yes done).print.length) := by
        simpa [print, List.append_assoc] using hread
      have := Text.pieces_item_append (by simp [print, openText_ne_nil]) hitem
      rw [ih] at this
      simpa [print, List.append_assoc] using this
    | none =>
      rw [hnode] at hread
      simp only [List.append_assoc]
      rw [pieces_openText h.braced _ hn hread, pieces_print h yes _ hy,
        pieces_closing h.braced .conditional (h.closing .conditional _), ih]
  | choice n yes no rest, s, ⟨hn, hy, hno, hr⟩ => by
    have hread := h.choice n yes no (rest.print ++ s) hn hy hno
    have ih := pieces_print h rest s hr
    simp only [print, cut, List.append_assoc]
    cases hnode : node (choice n yes no done) with
    | some a =>
      rw [hnode] at hread
      have hitem : read ((choice n yes no done).print ++ (rest.print ++ s))
          = some (a, (choice n yes no done).print.length) := by
        simpa [print, List.append_assoc] using hread
      have := Text.pieces_item_append (by simp [print, openText_ne_nil]) hitem
      rw [ih] at this
      simpa [print, List.append_assoc] using this
    | none =>
      rw [hnode] at hread
      simp only [List.append_assoc]
      rw [pieces_openText h.braced _ hn hread, pieces_print h yes _ hy, h.pieces_split, pieces_print h no _ hno,
        pieces_closing h.braced .conditional (h.closing .conditional _), ih]
  | each n body rest, s, ⟨hn, hb, hr⟩ => by
    have hread := h.each n body (rest.print ++ s) hn hb
    have ih := pieces_print h rest s hr
    simp only [print, cut, List.append_assoc]
    cases hnode : node (each n body done) with
    | some a =>
      rw [hnode] at hread
      have hitem : read ((each n body done).print ++ (rest.print ++ s))
          = some (a, (each n body done).print.length) := by
        simpa [print, List.append_assoc] using hread
      have := Text.pieces_item_append (by simp [print, openText_ne_nil]) hitem
      rw [ih] at this
      simpa [print, List.append_assoc] using this
    | none =>
      rw [hnode] at hread
      simp only [List.append_assoc]
      rw [pieces_openText h.braced _ hn hread, pieces_print h body _ hb,
        pieces_closing h.braced .loop (h.closing .loop _), ih]

/-! ## The three readers -/

section Readers

variable {n s : Text} {yes no body : Markup}

theorem loop?_conditional (n s : Text) : loop? (openText .conditional n ++ s) = none := by
  have hkind : TagKind.loop ≠ .conditional := by decide
  simp [loop?, openTagOf?_of_ne hkind]

theorem loop?_print (hn : IsName n) (hb : body.Formed BraceFree) :
    loop? (openText .loop n ++ (body.print ++ (loopMarkers.closing ++ s)))
      = some (⟨n, body.print⟩, (each n body done).print.length) := by
  rw [loop?_written hn (Markers.passes_print .loop hb _)]
  simp [print]

theorem conditional?_print_when (hn : IsName n) (hy : yes.Formed BraceFree) :
    conditional? (openText .conditional n ++ (yes.print ++ (conditionalMarkers.closing ++ s)))
      = some (⟨n, yes.print, none⟩, (when n yes done).print.length) := by
  rw [conditional?_written_when hn (Markers.passes_print .conditional hy _)]
  simp [print]

theorem conditional?_print_choice (hn : IsName n) (hy : yes.Formed BraceFree) (hno : no.Formed BraceFree) :
    conditional? (openText .conditional n ++
        (yes.print ++ (elseText ++ (no.print ++ (conditionalMarkers.closing ++ s)))))
      = some (⟨n, yes.print, some no.print⟩, (choice n yes no done).print.length) := by
  rw [conditional?_written_choice hn (Markers.passes_print .conditional hy _) fun pos first =>
    Markers.passes_print .conditional hno _ pos (some first)]
  simp [print]

theorem loop?_of_third {c : Point} (hc : c ≠ '#') (s : Text) : loop? ('{' :: '{' :: c :: s) = none := by
  simp [loop?, openTagOf?_of_third _ hc]

theorem conditional?_of_third {c : Point} (hc : c ≠ '#') (s : Text) : conditional? ('{' :: '{' :: c :: s) = none := by
  simp [conditional?, openTagOf?_of_third _ hc]

theorem IsName.ne_number {c : Point} {cs : Text} (hn : IsName (c :: cs)) : c ≠ '#' := by
  rintro rfl
  exact hn.not_mem (x := '#') (by decide) (by decide) (by simp)

/-- The loops of a tree. -/
def loopNode : Markup → Option Loop
  | each n body _ => some ⟨n, body.print⟩
  | _ => none

theorem reads_loop? : ReadsNodes loop? loopNode none where
  braced := braced_loop?
  place := by
    intro n s hn
    obtain ⟨c, cs, rfl, -⟩ := hn.head
    exact loop?_of_third (IsName.ne_number hn) _
  when _ _ _ _ _ := loop?_conditional _ _
  choice _ _ _ _ _ _ _ := loop?_conditional _ _
  each _ _ _ hn hb := loop?_print hn hb
  split s := loop?_of_third (by decide) _
  closing kind s := by
    rw [closing_eq]
    exact loop?_of_third (by decide) _

/-- The loops of a tree, and the conditionals that belong to a turn. -/
def blockNode (withElse : Bool) : Markup → Option Block
  | when n yes _ => if withElse then none else some (.choice ⟨n, yes.print, none⟩)
  | choice n yes no _ => if withElse then some (.choice ⟨n, yes.print, some no.print⟩) else none
  | each n body _ => some (.loop (each n body done).print)
  | _ => none

theorem block?_of_third (w : Bool) {c : Point} (hc : c ≠ '#') (s : Text) : block? w ('{' :: '{' :: c :: s) = none := by
  simp [block?, loop?_of_third hc, conditional?_of_third hc]

theorem braced_block? (w : Bool) : Braced (block? w) := by
  intro t h
  simp [block?, braced_loop? t h, braced_conditional? t h]

theorem reads_block? (w : Bool) : ReadsNodes (block? w) (blockNode w) none where
  braced := braced_block? w
  place := by
    intro n s hn
    obtain ⟨c, cs, rfl, -⟩ := hn.head
    exact block?_of_third w (IsName.ne_number hn) _
  when n yes s hn hy := by
    simp only [block?, loop?_conditional, conditional?_print_when hn hy]
    cases w <;> rfl
  choice n yes no s hn hy hno := by
    simp only [block?, loop?_conditional, conditional?_print_choice hn hy hno]
    cases w <;> rfl
  each n body s hn hb := by
    have htake : (openText .loop n ++ (body.print ++ (loopMarkers.closing ++ s))).take (each n body done).print.length
        = (each n body done).print := by
      have : ((each n body done).print ++ s).take (each n body done).print.length = (each n body done).print :=
        List.take_left
      simpa [print, List.append_assoc] using this
    simp only [block?, loop?_print hn hb, htake]
    rfl
  split s := block?_of_third w (by decide) _
  closing kind s := by
    rw [closing_eq]
    exact block?_of_third w (by decide) _

/-- The placeholders of a tree. -/
def placeNode : Markup → Option Placeholder
  | place n _ => some ⟨n, placeText n⟩
  | _ => none

theorem placeholder?_openText (kind : TagKind) (n s : Text) : placeholder? (openText kind n ++ s) = none :=
  placeholder?_of_third (by decide) (by decide) (by decide) _

/-- The marker between two branches reads as a placeholder. -/
theorem reads_placeholder? : ReadsNodes placeholder? placeNode (some ⟨elseName, elseText⟩) where
  braced := braced_placeholder?
  place _ _ hn := placeholder?_placeText hn _
  when _ _ _ _ _ := placeholder?_openText _ _ _
  choice _ _ _ _ _ _ _ := placeholder?_openText _ _ _
  each _ _ _ _ _ := placeholder?_openText _ _ _
  split s := placeholder?_placeText (n := elseName) (by decide) s
  closing kind s := by
    rw [closing_eq]
    exact placeholder?_of_third (by decide) (by decide) (by decide) _

end Readers

end Markup

end Stencil
