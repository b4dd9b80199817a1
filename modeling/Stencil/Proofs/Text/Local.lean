import Stencil.Proofs.Text.Pieces

/-!
# Items that depend on their own characters alone

* **Local recognisers** (`Local`) read an item whatever follows it, and nothing of what follows it.
* A text **parts** from the one after it (`Parts`) if no item that starts in the first reaches into the second. Then a
  local recogniser cuts each of them on its own (`Local.pieces_append`), and what is written for their items stands side
  by side (`Local.replace_append`, `Local.replaceM_append`).
* **Ended recognisers** (`Ended`) read items with a last character of their own. A text parts from any one after it
  without that character (`Ended.parts`), and a text without braces from any one after it (`Braced.parts`).
-/

namespace Stencil.Text

variable {α : Type} {read : Recogniser α}

/-- An item lies in the text that it is read off, and is read whatever follows it. -/
structure Local (read : Recogniser α) : Prop where
  width_le {t : Text} {a : α} {width : Nat} : read t = some (a, width) → width ≤ t.length
  read_take {t : Text} {a : α} {width : Nat} :
    read t = some (a, width) → ∀ s, read (t.take width ++ s) = some (a, width)

namespace Local

variable {t s : Text} {a : α} {width : Nat}

/-- What follows a text does not change the item at its head. -/
theorem append (h : Local read) (hread : read t = some (a, width)) (s : Text) : read (t ++ s) = some (a, width) := by
  have := h.read_take hread (t.drop width ++ s)
  rwa [← List.append_assoc, List.take_append_drop] at this

/-- An item that lies in the first of two texts is read off it. -/
theorem of_append (h : Local read) (hread : read (t ++ s) = some (a, width)) (hle : width ≤ t.length) :
    read t = some (a, width) := by
  have := h.read_take hread (t.drop width)
  rwa [List.take_append_of_le_length hle, List.take_append_drop] at this

end Local

/-- No item that starts in the first text reaches into the second one. -/
def Parts (read : Recogniser α) (t s : Text) : Prop :=
  ∀ u v a width, t = u ++ v → v ≠ [] → read (v ++ s) = some (a, width) → width ≤ v.length

theorem Parts.of_append {t u s : Text} (h : Parts read (t ++ u) s) : Parts read u s :=
  fun v w a width huv hw hread => h (t ++ v) w a width (by rw [huv, List.append_assoc]) hw hread

namespace Local

/-- **Texts that part** are cut each on its own. -/
theorem pieces_append (h : Local read) (s : Text) : ∀ t : Text, Parts read t s →
    pieces read (t ++ s) = pieces read t ++ pieces read s := by
  refine pieces_induction read ?_ ?_ ?_
  · intro _
    rfl
  · intro c cs hnone ih hparts
    have hread : read (c :: (cs ++ s)) = none := by
      cases hread : read (c :: (cs ++ s)) with
      | none => rfl
      | some found =>
        have hle : found.2 ≤ (c :: cs).length := hparts [] _ found.1 found.2 rfl (by simp) hread
        rw [h.of_append (t := c :: cs) hread hle] at hnone
        cases hnone
    rw [List.cons_append, pieces_of_none hread, pieces_of_none hnone, ih (Parts.of_append (t := [c]) hparts)]
    rfl
  · intro c cs a width hread ih hparts
    have hwhole : read (c :: (cs ++ s)) = some (a, width) := h.append hread s
    have hcut : width - 1 ≤ cs.length := by
      have := h.width_le hread
      rw [List.length_cons] at this
      omega
    have htail : Parts read (cs.drop (width - 1)) s := by
      refine Parts.of_append (t := c :: cs.take (width - 1)) ?_
      rwa [List.cons_append, List.take_append_drop]
    rw [List.cons_append, pieces_of_some hwhole, pieces_of_some hread, List.drop_append_of_le_length hcut, ih htail]
    rfl

theorem replace_append (h : Local read) (write : α → Text) {t s : Text} (hparts : Parts read t s) :
    replace read write (t ++ s) = replace read write t ++ replace read write s := by
  rw [replace, h.pieces_append s t hparts, List.flatMap_append]
  rfl

theorem replaceM_append {m : Type → Type} [Monad m] [LawfulMonad m] (h : Local read) (write : α → m Text)
    {t s : Text} (hparts : Parts read t s) :
    replaceM read write (t ++ s) = do return (← replaceM read write t) ++ (← replaceM read write s) := by
  rw [replaceM, h.pieces_append s t hparts, writeM_append]
  rfl

end Local

/-- A local recogniser whose items end with a character. -/
structure Ended (read : Recogniser α) (last : Point) : Prop extends Local read where
  last_eq {t : Text} {a : α} {width : Nat} : read t = some (a, width) → 0 < width ∧ t[width - 1]? = some last

theorem Ended.parts {last : Point} (h : Ended read last) (t : Text) {s : Text} (hs : last ∉ s) : Parts read t s := by
  intro u v a width _ _ hread
  obtain ⟨hpos, hlast⟩ := h.last_eq hread
  refine Nat.le_of_not_lt fun hlt => ?_
  rw [List.getElem?_append_right (by omega)] at hlast
  exact hs (List.mem_of_getElem? hlast)

/-! ## Texts without braces -/

section Braced

variable {t : Text} (hr : Braced read) (ht : BraceFree t)

include hr ht

/-- No item starts in a text without braces. -/
theorem Braced.parts (s : Text) : Parts read t s := by
  intro u v a width huv hv hread
  obtain ⟨c, cs, rfl⟩ := List.exists_cons_of_ne_nil hv
  have hc : c ≠ '{' := ht c (by simp [huv])
  rw [List.cons_append, hr.none_of_head hc] at hread
  cases hread

theorem Braced.pieces_eq : pieces read t = t.map .char := by
  simpa using pieces_braceFree_append hr ht []

end Braced

end Stencil.Text
