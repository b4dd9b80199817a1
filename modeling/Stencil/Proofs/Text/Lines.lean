import Stencil.Proofs.Text.Pieces

/-!
# Lines and cuts

* A text is cut at the **first** occurrence of a marker (`eq_of_cutAt?`, `cutAt?_append`).
* **Lines**: a text that ends with a newline, or is empty, is made of whole lines (`exists_unlines`), and these are its
  first lines whatever follows it (`lines_unlines_append`).
-/

namespace Stencil.Text

variable {t u : Text}

/-! ## Cuts -/

/-- The two sides of a marker and the marker make up the text. -/
theorem eq_of_cutAt? {marker : Text} : ∀ {t before after : Text}, cutAt? marker t = some (before, after) →
    t = before ++ (marker ++ after)
  | [], before, after, h => by
    obtain ⟨rest, hrest, heq⟩ := Option.map_eq_some_iff.1 h
    cases heq
    rw [List.nil_append]
    exact after?_eq_some hrest
  | c :: cs, before, after, h => by
    rw [cutAt?] at h
    split at h
    · rename_i rest hrest
      cases h
      rw [List.nil_append]
      exact after?_eq_some hrest
    · obtain ⟨⟨u, v⟩, huv, heq⟩ := Option.map_eq_some_iff.1 h
      cases heq
      rw [eq_of_cutAt? huv]
      rfl

/-- A text with a marker in it is cut there or before. -/
theorem cutAt?_append (marker v : Text) : ∀ u : Text,
    ∃ before after, cutAt? marker (u ++ (marker ++ v)) = some (before, after) ∧ before.length ≤ u.length
  | [] => by
    refine ⟨[], v, ?_, Nat.le_refl _⟩
    have hhead := after?_append marker v
    rw [List.nil_append]
    cases hcut : marker ++ v with
    | nil =>
      rw [hcut] at hhead
      rw [cutAt?, hhead]
      rfl
    | cons c cs =>
      rw [hcut] at hhead
      rw [cutAt?, hhead]
  | c :: cs => by
    obtain ⟨before, after, hcut, hle⟩ := cutAt?_append marker v cs
    rw [List.cons_append, cutAt?]
    split
    · exact ⟨[], _, rfl, Nat.zero_le _⟩
    · exact ⟨c :: before, after, by rw [hcut]; rfl, Nat.succ_le_succ hle⟩

/-! ## Lines -/

theorem lines_append_newline (h : Point.char '\n' ∉ u) (v : Text) :
    lines (u ++ Point.char '\n' :: v) = u :: lines v := by
  induction u with
  | nil => simp [lines, splitAt]
  | cons c cs ih =>
    rw [List.mem_cons, not_or] at h
    have ih := ih h.2
    rw [lines] at ih ⊢
    rw [List.cons_append, splitAt, if_neg (Ne.symm h.1), ih]

theorem lines_of_not_mem (h : Point.char '\n' ∉ u) : lines u = [u] := by
  induction u with
  | nil => rfl
  | cons c cs ih =>
    rw [List.mem_cons, not_or] at h
    have ih := ih h.2
    rw [lines] at ih ⊢
    rw [splitAt, if_neg (Ne.symm h.1), ih]

/-- Whole lines are the first lines of a text. -/
theorem lines_unlines_append (v : Text) : ∀ {ls : List Text}, (∀ l ∈ ls, Point.char '\n' ∉ l) →
    lines (unlines ls ++ v) = ls ++ lines v
  | [], _ => rfl
  | l :: ls, h => by
    rw [List.forall_mem_cons] at h
    have hsplit : unlines (l :: ls) ++ v = l ++ Point.char '\n' :: (unlines ls ++ v) := by simp [unlines]
    rw [hsplit, lines_append_newline h.1, lines_unlines_append v h.2, List.cons_append]

/-- A text that ends with a newline is made of whole lines. -/
theorem exists_unlines : ∀ {t : Text}, (∀ c ∈ t.getLast?, c = '\n') →
    ∃ ls, t = unlines ls ∧ ∀ l ∈ ls, Point.char '\n' ∉ l
  | [], _ => ⟨[], rfl, fun _ h => by cases h⟩
  | [c], h => by
    obtain rfl := h c rfl
    exact ⟨[[]], rfl, by simp⟩
  | c :: d :: cs, h => by
    obtain ⟨ls, hls, hfree⟩ := exists_unlines (t := d :: cs) (by rwa [List.getLast?_cons_cons] at h)
    by_cases hc : c = '\n'
    · exact ⟨[] :: ls, by rw [hls, hc]; rfl, by simpa using hfree⟩
    · cases ls with
      | nil => cases hls
      | cons l ls =>
        rw [List.forall_mem_cons] at hfree
        refine ⟨(c :: l) :: ls, by rw [hls]; rfl, List.forall_mem_cons.2 ⟨?_, hfree.2⟩⟩
        rw [List.mem_cons, not_or]
        exact ⟨Ne.symm hc, hfree.1⟩

/-- Lines after a first one, each with the newline before it. -/
theorem join_cons (l : Text) : ∀ ls : List Text, join ['\n'] (l :: ls) = l ++ ls.flatMap (Point.char '\n' :: ·)
  | [] => by simp [join, List.intercalate]
  | l' :: ls => by
    rw [join_cons_cons, join_cons l' ls, List.flatMap_cons, List.append_assoc]
    rfl

/-- Newlines before lines or after them. -/
theorem flatMap_newline_append (v : Text) : ∀ ls : List Text,
    ls.flatMap (Point.char '\n' :: ·) ++ Point.char '\n' :: v = Point.char '\n' :: (unlines ls ++ v)
  | [] => rfl
  | l :: ls => by
    have ih := flatMap_newline_append v ls
    rw [List.flatMap_cons, List.append_assoc, ih]
    simp [unlines]

end Stencil.Text
