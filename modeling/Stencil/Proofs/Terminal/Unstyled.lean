import Stencil.Proofs.Results
import Stencil.Proofs.Text.Pieces
import Stencil.Program.Listing
import Stencil.Terminal.Help

/-!
# Texts without tags

* **Texts without brackets** (`Text.Unstyled`) hold no style tags, so that they are shown without an error
  (`Text.shown_of_unstyled`).
* **Tables and pages** of such texts are always set (`Table.text_of_unstyled`, `HelpPage.plain_of_unstyled`,
  `HelpPage.rich_of_unstyled`).
-/

namespace Stencil

/-! ## Texts -/

namespace Text

/-- No style tag starts in the text. -/
def Unstyled (t : Text) : Prop := Point.char '[' ∉ t

instance : DecidablePred Unstyled := fun t => inferInstanceAs (Decidable (Point.char '[' ∉ t))

theorem unstyled_append {t u : Text} (ht : Unstyled t) (hu : Unstyled u) : Unstyled (t ++ u) := fun h =>
  (List.mem_append.1 h).elim ht hu

theorem unstyled_join {separator : Text} (hseparator : Unstyled separator) :
    ∀ {ts : List Text}, (∀ t ∈ ts, Unstyled t) → Unstyled (join separator ts)
  | [], _ => List.not_mem_nil
  | [t], h => by
    rw [join, List.intercalate_singleton]
    exact h t List.mem_cons_self
  | t :: t' :: ts, h => by
    obtain ⟨ht, hts⟩ := List.forall_mem_cons.1 h
    rw [join_cons_cons]
    exact unstyled_append (unstyled_append ht hseparator) (unstyled_join hseparator hts)

theorem styleTag?_of_unstyled {t : Text} (h : Unstyled t) : styleTag? t = none := by
  rw [styleTag?]
  simp only
  split
  · rename_i c cs hdrop
    have hmem : Point.char '[' ∈ t.drop (t.takeWhile (· = Point.char '\\')).length := by
      rw [hdrop]
      exact List.mem_cons_self
    exact absurd (List.mem_of_mem_drop hmem) h
  · rfl

theorem pieces_of_unstyled {t : Text} (h : Unstyled t) : pieces styleTag? t = t.map .char := by
  induction t with
  | nil => rfl
  | cons c cs ih =>
    have hcs : Unstyled cs := fun hmem => h (List.mem_cons_of_mem c hmem)
    rw [pieces_of_none (styleTag?_of_unstyled h), ih hcs, List.map_cons]

theorem shownPieces_chars (opened : List OpenStyle) (t acc : Text) (position : Nat) :
    shownPieces acc position opened (t.map .char) = .ok ⟨shownLiteral (acc.reverse ++ t), none⟩ := by
  -- Characters open no style, so that only the text so far and the position change.
  induction t generalizing acc position with
  | nil => rw [List.map_nil, shownPieces, List.append_nil]
  | cons c cs ih => rw [List.map_cons, shownPieces, ih, List.reverse_cons, List.append_assoc, List.singleton_append]

/-- A text without brackets is shown. -/
theorem shown_of_unstyled {t : Text} (h : Unstyled t) : ∃ u, shown t = .ok ⟨u, none⟩ :=
  ⟨_, by rw [shown, pieces_of_unstyled h, shownPieces_chars]; rfl⟩

end Text

/-! ## Tables -/

namespace Table

variable {t : Table}

/-- No text of the table holds a bracket. -/
structure Unstyled (t : Table) : Prop where
  title : Text.Unstyled t.title
  headers : ∀ header ∈ t.headers, Text.Unstyled header
  rows : ∀ row ∈ t.rows, ∀ cell ∈ row, Text.Unstyled cell

theorem unstyled_getD {ts : List Text} (h : ∀ u ∈ ts, Text.Unstyled u) (index : Nat) :
    Text.Unstyled ((ts[index]?).getD []) := by
  cases hget : ts[index]? with
  | none => exact List.not_mem_nil
  | some u => exact h u (List.mem_of_getElem? hget)

/-- The columns are shown, and their styles have no fault. -/
theorem column_of_unstyled (h : t.Unstyled) (index : Nat) : ∃ c, t.column index = .ok (c, none) := by
  obtain ⟨header, hheader⟩ := Text.shown_of_unstyled (unstyled_getD h.headers index)
  have hcell : ∀ row ∈ t.rows, ∃ s : Shown, Text.shown ((row[index]?).getD []) = .ok s ∧ s.fault = none := by
    intro row hrow
    obtain ⟨u, hu⟩ := Text.shown_of_unstyled (unstyled_getD (h.rows row hrow) index)
    exact ⟨⟨u, none⟩, hu, rfl⟩
  obtain ⟨cells, hcells, hfaults⟩ := mapM_ok_of_forall hcell
  have hfault : (⟨header, none⟩ :: cells : List Shown).findSome? (·.fault) = none := by
    rw [List.findSome?_cons]
    exact List.findSome?_eq_none_iff.2 hfaults
  refine ⟨⟨header, cells.map (·.text), decide (index ∈ t.unbroken ∧ index < t.headers.length)⟩, ?_⟩
  rw [← hfault, column, hheader, hcells]
  rfl

theorem columns_of_unstyled (h : t.Unstyled) : ∃ cs, t.columns = .ok cs ∧ ∀ c ∈ cs, c.2 = none := by
  refine mapM_ok_of_forall fun index _ => ?_
  obtain ⟨c, hc⟩ := column_of_unstyled h index
  exact ⟨(c, none), hc, rfl⟩

theorem titleLines_of_unstyled (h : t.Unstyled) (width : Nat) : ∃ ls, t.titleLines width = .ok ls := by
  obtain ⟨u, hu⟩ := Text.shown_of_unstyled h.title
  rw [titleLines, hu]
  split
  · exact ⟨_, rfl⟩
  · exact ⟨_, rfl⟩

/-- A table of texts without brackets is set. -/
theorem lines_of_unstyled (h : t.Unstyled) (available : Nat) : ∃ ls, t.lines available = .ok ls := by
  obtain ⟨cs, hcs, hfaults⟩ := columns_of_unstyled h
  have hfault : cs.findSome? (·.2) = none := List.findSome?_eq_none_iff.2 hfaults
  unfold lines
  rw [hcs]
  simp only [bind, Except.bind]
  split
  · exact ⟨_, rfl⟩
  · obtain ⟨title, htitle⟩ := titleLines_of_unstyled h (Drawing.mk (cs.map (·.1))
      (columnWidths (available - ((cs.map (·.1)).length + 1)) (cs.map (·.1)))).fullWidth
    rw [htitle]
    simp only [hfault]
    exact ⟨_, rfl⟩

theorem text_of_unstyled (h : t.Unstyled) (available : Nat) : ∃ u, t.text available = .ok u := by
  obtain ⟨ls, hls⟩ := lines_of_unstyled h available
  exact ⟨Text.unlines ls, by rw [text, hls]; rfl⟩

end Table

/-! ## Pages -/

namespace HelpPage

variable {p : HelpPage}

/-- No text of the page but its command, which is set in a style, holds a bracket, and all sections have items. -/
structure Unstyled (p : HelpPage) : Prop where
  summary : Text.Unstyled p.summary
  titles : ∀ s ∈ p.sections, Text.Unstyled s.title
  items : ∀ s ∈ p.sections, s.items ≠ [] ∧ ∀ entry ∈ s.items, Text.Unstyled entry.1 ∧ Text.Unstyled entry.2

theorem unstyled_table {s : HelpSection} (htitle : Text.Unstyled s.title)
    (hitems : ∀ entry ∈ s.items, Text.Unstyled entry.1 ∧ Text.Unstyled entry.2) : s.table.Unstyled where
  title := htitle
  headers := by
    show ∀ header ∈ ["Item".text, "Description".text], Text.Unstyled header
    decide
  rows row hrow cell hcell := by
    obtain ⟨entry, hentry, rfl⟩ := List.mem_map.1 hrow
    obtain ⟨hitem, htext⟩ := hitems entry hentry
    rcases List.mem_cons.1 hcell with rfl | hcell
    · exact hitem
    · rw [List.mem_singleton.1 hcell]
      exact htext

theorem plain_of_unstyled (h : p.Unstyled) : ∃ u, p.plain = .ok u := by
  have hsection : ∀ s ∈ p.sections, ∃ ls, s.plainLines = .ok ls := by
    intro s hs
    rw [HelpSection.plainLines, if_neg (by simpa using (h.items s hs).1)]
    exact ⟨_, rfl⟩
  obtain ⟨sections, hsections⟩ := (mapM_ok_iff p.sections).2 hsection
  exact ⟨_, by rw [plain, hsections]; rfl⟩

theorem rich_of_unstyled (h : p.Unstyled) {title : Text} (htitle : p.title = .ok title) (width : Nat) :
    ∃ u, p.rich width = .ok u := by
  have hsection : ∀ s ∈ p.sections, ∃ ls, (s.table.lines width).mapError HelpError.style = .ok ls := by
    intro s hs
    obtain ⟨ls, hls⟩ := Table.lines_of_unstyled (unstyled_table (h.titles s hs) (h.items s hs).2) width
    exact ⟨ls, by rw [hls]; rfl⟩
  obtain ⟨tables, htables⟩ := (mapM_ok_iff p.sections).2 hsection
  obtain ⟨summary, hsummary⟩ := Text.shown_of_unstyled h.summary
  have hstyled : styled p.summary = .ok summary := by rw [styled, hsummary]; rfl
  exact ⟨_, by rw [rich, htitle, hstyled, htables]; rfl⟩

end HelpPage

end Stencil
