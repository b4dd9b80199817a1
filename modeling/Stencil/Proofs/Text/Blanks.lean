import Stencil.Text.Basic

/-!
# Texts without the blanks around them

* **Trimmed texts** (`Trimmed`): what is left of a text without the blanks at its two ends, told without the order in
  which they are dropped. `strip` gives it (`trimmed_strip`).
-/

namespace Stencil.Text

/-! ## Runs of a class -/

theorem all_dropWhile (p : Point → Bool) : ∀ t : Text, (t.dropWhile p).all p = t.all p
  | [] => rfl
  | c :: cs => by
    rw [List.dropWhile_cons]
    split
    · rename_i hc
      rw [all_dropWhile p cs, List.all_cons, hc, Bool.true_and]
    · rfl

/-- What comes after a run of characters of a class starts with none of them. -/
theorem head?_dropWhile {p : Point → Bool} (t : Text) : ∀ c ∈ (t.dropWhile p).head?, p c = false := by
  intro c hc
  have := List.head?_dropWhile_not p t
  rw [Option.mem_def.1 hc] at this
  simpa using this

/-! ## Blanks -/

/-- A text is blank if nothing else is left of it. -/
theorem isBlank_strip {t : Text} : IsBlank t.strip ↔ IsBlank t := by
  rw [IsBlank, IsBlank, strip, trim, List.all_reverse, all_dropWhile, List.all_reverse, all_dropWhile]

/-- A text is another one without the blanks at its two ends. -/
structure Trimmed (t u : Text) : Prop where
  parts : ∃ left right, IsBlank left ∧ IsBlank right ∧ t = left ++ u ++ right
  head : ∀ c ∈ u.head?, isBlank c = false
  last : ∀ c ∈ u.getLast?, isBlank c = false

/-- A text that starts with no blank does not do so either when blanks at its end are dropped. -/
theorem head?_stripRight {t : Text} (h : ∀ c ∈ t.head?, isBlank c = false) :
    ∀ c ∈ (stripRight t).head?, isBlank c = false := by
  obtain ⟨dropped, hdropped⟩ : stripRight t <+: t := by
    rw [stripRight, ← List.reverse_suffix, List.reverse_reverse]
    exact List.dropWhile_suffix _
  intro c hc
  refine h c ?_
  rw [← hdropped, List.head?_append, Option.mem_def.1 hc]
  rfl

theorem trimmed_strip (t : Text) : t.Trimmed t.strip := by
  have hstrip : t.strip = stripRight (t.dropWhile isBlank) := rfl
  constructor
  · refine ⟨t.takeWhile isBlank, ((t.dropWhile isBlank).reverse.takeWhile isBlank).reverse, ?_, ?_, ?_⟩
    · exact List.all_takeWhile
    · rw [IsBlank, List.all_reverse]
      exact List.all_takeWhile
    · rw [hstrip, stripRight, List.append_assoc, ← List.reverse_append, List.takeWhile_append_dropWhile,
        List.reverse_reverse, List.takeWhile_append_dropWhile]
  · rw [hstrip]
    exact head?_stripRight (head?_dropWhile t)
  · rw [hstrip, stripRight, List.getLast?_reverse]
    exact head?_dropWhile _

theorem dropWhile_blank_append {blank u : Text} (hblank : IsBlank blank) (hu : ∀ c ∈ u.head?, isBlank c = false) :
    (blank ++ u).dropWhile isBlank = u := by
  rw [List.dropWhile_append_of_pos (List.all_eq_true.1 hblank)]
  cases u with
  | nil => rfl
  | cons c cs => rw [List.dropWhile_cons, hu c rfl, if_neg Bool.false_ne_true]

/-- A trimmed text is what `strip` gives. -/
theorem Trimmed.eq_strip {t u : Text} (h : t.Trimmed u) : u = t.strip := by
  obtain ⟨left, right, hleft, hright, rfl⟩ := h.parts
  have hreversed : IsBlank right.reverse := by rwa [IsBlank, List.all_reverse]
  have hlast : ∀ c ∈ u.reverse.head?, isBlank c = false := by
    rw [List.head?_reverse]
    exact h.last
  cases u with
  | nil =>
    have hall : IsBlank (left ++ [] ++ right) := by
      rw [IsBlank, List.append_nil, List.all_append, hleft, hright, Bool.and_self]
    rw [strip, trim, ← List.append_nil (left ++ [] ++ right), dropWhile_blank_append hall (by simp)]
    rfl
  | cons c cs =>
    have hhead : ∀ d ∈ ((c :: cs) ++ right).head?, isBlank d = false := h.head
    rw [strip, trim, List.append_assoc, dropWhile_blank_append hleft hhead, List.reverse_append,
      dropWhile_blank_append hreversed hlast, List.reverse_reverse]

end Stencil.Text
