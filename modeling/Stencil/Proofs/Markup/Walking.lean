import Stencil.Proofs.Markup.Balance

/-!
# Matching with a cursor

The match of a tag can be found by a loop with a cursor, which jumps over a marker as a whole. The markers are any texts
here: the closing and the alternative one may be empty, and all three may overlap.

* **Walks** (`Walk`, `Walk.step`): an empty closing or alternative marker leaves the cursor where it is.
* **One step** (`moves_of_step`) lowers a potential if the opening marker has a character (`Moves.potential_lt`): what
  the cursor passes counts twice, since a marker that is passed may raise the depth. Hence walks end, and at an empty
  opening marker alone they go on for ever (`exists_runs_iff`).
* **A whole walk** finds the match of the scan (`Runs.outcome`), and a match lies in the text (`Runs.inBounds`).
-/

namespace Stencil

open Text (occursAt)

/-! ## Occurrences as parts of a text -/

/-- A marker stands before what is after it. -/
theorem Text.drop_of_occursAt {u t : Text} {i : Nat} (h : occursAt u t i = true) :
    t.drop i = u ++ t.drop (i + u.length) := by
  obtain ⟨rest, hrest⟩ := List.isPrefixOf_iff_prefix.1 h
  rw [← List.drop_drop, ← hrest, List.drop_left]

namespace Markers

/-! ## Scans from a position -/

section Scans

variable {m : Markers} {t : Text} {pos depth : Nat} {o : Option Nat}

/-- A step that goes on leaves the scan of what is after one place. -/
theorem scan_drop {p p' : Progress} (hlt : pos < t.length) (h : m.step (t.drop pos) p = .ok p') :
    m.scan (t.drop pos) p = m.scan (t.drop (pos + 1)) p' := by
  rw [List.drop_eq_getElem_cons hlt] at h ⊢
  exact scan_cons h

/-- A step that ends the scan gives its match. -/
theorem scan_drop_ends {p : Progress} {found : TagMatch} (hlt : pos < t.length)
    (h : m.step (t.drop pos) p = .error found) : m.scan (t.drop pos) p = .error found := by
  rw [List.drop_eq_getElem_cons hlt] at h ⊢
  rw [Markers.scan, h]

/-- A scan jumps over a marker that it takes. -/
theorem scan_jump {u : Text} {depth' : Nat} {o' : Option Nat} (hu : u ≠ []) (hocc : occursAt u t pos = true)
    (h : m.step (t.drop pos) ⟨pos, 0, depth, o⟩ = .ok ⟨pos + 1, u.length - 1, depth', o'⟩) :
    m.scan (t.drop pos) ⟨pos, 0, depth, o⟩ = m.scan (t.drop (pos + u.length)) ⟨pos + u.length, 0, depth', o'⟩ := by
  rw [Text.drop_of_occursAt hocc] at h ⊢
  exact scan_marker hu h

theorem step_opening (hopen : occursAt m.opening t pos = true) : m.step (t.drop pos) ⟨pos, 0, depth, o⟩
    = .ok ⟨pos + 1, m.opening.length - 1, depth + 1, o⟩ := by
  rw [occursAt] at hopen
  simp [Markers.step, hopen]

theorem step_closing (hopen : occursAt m.opening t pos = false) (hclose : occursAt m.closing t pos = true) :
    m.step (t.drop pos) ⟨pos, 0, depth, o⟩ = if depth ≤ 1 ∨ m.closing = [] then .error ⟨pos, o⟩
      else .ok ⟨pos + 1, m.closing.length - 1, depth - 1, o⟩ := by
  rw [occursAt] at hopen hclose
  simp [Markers.step, hopen, hclose]

theorem step_between (hopen : occursAt m.opening t pos = false) (hclose : occursAt m.closing t pos = false) :
    m.step (t.drop pos) ⟨pos, 0, depth, o⟩ = if m.splitsHere depth o (t.drop pos)
      then .ok ⟨pos + 1, m.alternativeLength - 1, depth, some pos⟩ else .ok ⟨pos + 1, 0, depth, o⟩ := by
  rw [occursAt] at hopen hclose
  simp [Markers.step, hopen, hclose]

/-- After the first alternative marker none counts. -/
theorem splitsHere_some (m : Markers) (depth e : Nat) (s : Text) : m.splitsHere depth (some e) s = false := by
  rw [splitsHere]
  cases m.alternative <;> simp

end Scans

/-! ## The loop -/

/-- A walk on its way: the place of the cursor, the depth, and the place of the alternative marker. -/
structure Walk where
  pos : Nat
  depth : Nat
  elsePos : Option Nat

namespace Walk

/-- The start of a walk at a position. -/
def start (pos : Nat) : Walk := ⟨pos, 0, none⟩

/-- One step of a walk. At the end of the text it has ended without a match, and at a closing marker that balances the
opening ones with a match. -/
def step (m : Markers) (t : Text) (w : Walk) : Except (Option TagMatch) Walk :=
  if t.length ≤ w.pos then .error none
  else if occursAt m.opening t w.pos then .ok { w with pos := w.pos + m.opening.length, depth := w.depth + 1 }
  else if occursAt m.closing t w.pos then
    if w.depth ≤ 1 then .error (some ⟨w.pos, w.elsePos⟩)
    else .ok { w with pos := w.pos + m.closing.length, depth := w.depth - 1 }
  else if m.splitsHere w.depth w.elsePos (t.drop w.pos) then
    .ok { w with pos := w.pos + m.alternativeLength, elsePos := some w.pos }
  else .ok { w with pos := w.pos + 1 }

/-- A walk takes so many steps to its answer. -/
inductive Runs (m : Markers) (t : Text) : Nat → Walk → Option TagMatch → Prop
  | ended {w : Walk} {answer : Option TagMatch} : w.step m t = .error answer → Runs m t 0 w answer
  | step {n : Nat} {w w' : Walk} {answer : Option TagMatch} : w.step m t = .ok w' → Runs m t n w' answer →
    Runs m t (n + 1) w answer

/-! ## One step -/

section Step

variable {m : Markers} {t : Text} {w w' : Walk} {answer : Option TagMatch}

/-- What a step does that goes on. -/
inductive Moves (m : Markers) (t : Text) : Walk → Walk → Prop
  | opening {pos depth : Nat} {o : Option Nat} : pos < t.length → occursAt m.opening t pos = true →
    Moves m t ⟨pos, depth, o⟩ ⟨pos + m.opening.length, depth + 1, o⟩
  | closing {pos depth : Nat} {o : Option Nat} : pos < t.length → occursAt m.opening t pos = false →
    occursAt m.closing t pos = true → 1 ≤ depth →
    Moves m t ⟨pos, depth + 1, o⟩ ⟨pos + m.closing.length, depth, o⟩
  | alternative {pos : Nat} {marker : Text} : pos < t.length → occursAt m.opening t pos = false →
    occursAt m.closing t pos = false → marker ∈ m.alternative → occursAt marker t pos = true →
    Moves m t ⟨pos, 1, none⟩ ⟨pos + marker.length, 1, some pos⟩
  | other {pos depth : Nat} {o : Option Nat} : pos < t.length → occursAt m.opening t pos = false →
    occursAt m.closing t pos = false → m.splitsHere depth o (t.drop pos) = false →
    Moves m t ⟨pos, depth, o⟩ ⟨pos + 1, depth, o⟩

/-- **A step that goes on** takes one of four ways. -/
theorem moves_of_step (h : w.step m t = .ok w') : Moves m t w w' := by
  obtain ⟨pos, depth, o⟩ := w
  simp only [step] at h
  split at h
  · cases h
  rename_i hinside
  have hlt : pos < t.length := Nat.lt_of_not_le hinside
  split at h
  · rename_i hopen
    cases h
    exact .opening hlt hopen
  rename_i hopen
  have hopen : occursAt m.opening t pos = false := Bool.eq_false_iff.2 hopen
  split at h
  · rename_i hclose
    split at h
    · cases h
    · rename_i hdepth
      cases h
      obtain ⟨depth, rfl⟩ : ∃ d, depth = d + 1 := Nat.exists_eq_succ_of_ne_zero (by omega)
      exact .closing hlt hopen hclose (by omega)
  rename_i hclose
  have hclose : occursAt m.closing t pos = false := Bool.eq_false_iff.2 hclose
  split at h
  · rename_i hsplit
    obtain ⟨rfl, rfl, marker, hmarker, hocc⟩ := splitsHere_iff.1 hsplit
    cases h
    rw [alternativeLength_of_mem hmarker]
    exact .alternative hlt hopen hclose hmarker hocc
  · rename_i hsplit
    cases h
    exact .other hlt hopen hclose (Bool.eq_false_iff.2 hsplit)

/-- **A step that ends** the walk is at the end of the text, or at a closing marker. -/
theorem ends_of_step (h : w.step m t = .error answer) : (t.length ≤ w.pos ∧ answer = none) ∨
    (w.pos < t.length ∧ occursAt m.opening t w.pos = false ∧ occursAt m.closing t w.pos = true ∧ w.depth ≤ 1 ∧
      answer = some ⟨w.pos, w.elsePos⟩) := by
  simp only [step] at h
  split at h
  · rename_i hend
    cases h
    exact .inl ⟨hend, rfl⟩
  rename_i hinside
  split at h
  · cases h
  rename_i hopen
  split at h
  · rename_i hclose
    split at h
    · rename_i hdepth
      cases h
      exact .inr ⟨Nat.lt_of_not_le hinside, Bool.eq_false_iff.2 hopen, hclose, hdepth, rfl⟩
    · cases h
  · split at h <;> cases h

/-! ## Walks end -/

/-- What a walk can still spend: two for each character that is left, one for each level of the depth, and one for the
alternative marker if it was not found. -/
def potential (t : Text) (w : Walk) : Nat := 2 * (t.length - w.pos) + w.depth + if w.elsePos = none then 1 else 0

/-- **One step** lowers the potential, also where the cursor does not move. -/
theorem Moves.potential_lt (hm : m.opening ≠ []) (h : Moves m t w w') : w'.potential t < w.potential t := by
  cases h with
  | opening hlt hopen =>
    have hpos : 0 < m.opening.length := List.length_pos_iff.2 hm
    simp only [potential]
    omega
  | closing hlt _ _ _ =>
    simp only [potential]
    omega
  | alternative hlt _ _ _ _ =>
    simp only [potential, reduceCtorEq, if_true, if_false]
    omega
  | other hlt _ _ _ =>
    simp only [potential]
    omega

/-- A walk ends from wherever it is. -/
theorem exists_runs (hm : m.opening ≠ []) (w : Walk) : ∃ n answer, Runs m t n w answer := by
  induction hleft : w.potential t using Nat.strongRecOn generalizing w with
  | ind left ih =>
    subst hleft
    cases hstep : w.step m t with
    | error answer => exact ⟨0, answer, .ended hstep⟩
    | ok w' =>
      have hlt := (moves_of_step hstep).potential_lt hm
      obtain ⟨n, answer, hruns⟩ := ih _ hlt w' rfl
      exact ⟨n + 1, answer, .step hstep hruns⟩

/-- An empty opening marker is found again and again at one place. -/
theorem not_runs_of_opening_nil {n : Nat} (hm : m.opening = []) (hpos : w.pos < t.length) :
    ¬Runs m t n w answer := by
  intro h
  have hnext : ∀ w : Walk, w.pos < t.length → w.step m t = .ok ⟨w.pos, w.depth + 1, w.elsePos⟩ := by
    intro w hlt
    have hopen : occursAt [] t w.pos = true := List.isPrefixOf_nil_left
    simp [step, Nat.not_le.2 hlt, hm, hopen]
  induction h with
  | ended hend =>
    rw [hnext _ hpos] at hend
    cases hend
  | step hstep _ ih =>
    rw [hnext _ hpos] at hstep
    cases hstep
    exact ih hpos

/-- **Walks end** from everywhere, unless the opening marker is empty: then they end at the end of the text alone. -/
theorem exists_runs_iff : (∃ n answer, Runs m t n w answer) ↔ m.opening ≠ [] ∨ t.length ≤ w.pos := by
  constructor
  · rintro ⟨n, answer, hruns⟩
    by_cases hm : m.opening = []
    · exact .inr (Nat.le_of_not_lt fun hlt => not_runs_of_opening_nil hm hlt hruns)
    · exact .inl hm
  · rintro (hm | hend)
    · exact exists_runs hm w
    · exact ⟨0, none, .ended (if_pos hend)⟩

/-- At the end of the text a walk has ended. -/
theorem Runs.of_end {n : Nat} (hend : t.length ≤ w.pos) (h : Runs m t n w answer) : n = 0 ∧ answer = none := by
  have hstep : w.step m t = .error none := if_pos hend
  cases h with
  | ended h =>
    rw [hstep] at h
    cases h
    exact ⟨rfl, rfl⟩
  | step h _ =>
    rw [hstep] at h
    cases h

end Step

/-! ## The match that a walk finds -/

section Answer

variable {m : Markers} {t : Text} {w w' : Walk} {answer : Option TagMatch}

/-- The scan of what a walk has before it. -/
def rest (m : Markers) (t : Text) (w : Walk) : Except TagMatch Progress :=
  m.scan (t.drop w.pos) ⟨w.pos, 0, w.depth, w.elsePos⟩

/-- **One step** leaves what the scan comes to as it is. -/
theorem Moves.rest_eq (hm : m.opening ≠ []) (h : Moves m t w w') : w.rest m t = w'.rest m t := by
  cases h with
  | opening hlt hopen => exact scan_jump hm hopen (step_opening hopen)
  | @closing pos depth o hlt hopen hclose hdepth =>
    by_cases hempty : m.closing = []
    · -- the scan ends here at any depth
      have hends : ∀ depth, m.scan (t.drop pos) ⟨pos, 0, depth, o⟩ = .error ⟨pos, o⟩ := by
        intro depth
        exact scan_drop_ends hlt ((step_closing hopen hclose).trans (if_pos (.inr hempty)))
      rw [rest, rest, hempty]
      exact (hends (depth + 1)).trans (hends depth).symm
    · have hdeep : ¬(depth + 1 ≤ 1 ∨ m.closing = []) := by
        rintro (hle | hnil)
        · omega
        · exact hempty hnil
      exact scan_jump hempty hclose ((step_closing hopen hclose).trans (if_neg hdeep))
  | @alternative pos marker hlt hopen hclose hmarker hocc =>
    have hsplit : m.splitsHere 1 none (t.drop pos) = true := splitsHere_iff.2 ⟨rfl, rfl, marker, hmarker, hocc⟩
    have hstep : m.step (t.drop pos) ⟨pos, 0, 1, none⟩ = .ok ⟨pos + 1, marker.length - 1, 1, some pos⟩ := by
      rw [step_between hopen hclose, if_pos hsplit, alternativeLength_of_mem hmarker]
    by_cases hempty : marker = []
    · -- the cursor stays, and the marker that was found is not taken again
      have hagain : m.step (t.drop pos) ⟨pos, 0, 1, some pos⟩ = .ok ⟨pos + 1, 0, 1, some pos⟩ := by
        rw [step_between hopen hclose, splitsHere_some, if_neg Bool.false_ne_true]
      subst hempty
      show m.scan (t.drop pos) ⟨pos, 0, 1, none⟩ = m.scan (t.drop pos) ⟨pos, 0, 1, some pos⟩
      exact (scan_drop hlt hstep).trans (scan_drop hlt hagain).symm
    · exact scan_jump hempty hocc hstep
  | @other pos depth o hlt hopen hclose hsplit =>
    have hstep : m.step (t.drop pos) ⟨pos, 0, depth, o⟩ = .ok ⟨pos + 1, 0, depth, o⟩ := by
      rw [step_between hopen hclose, hsplit, if_neg Bool.false_ne_true]
    exact scan_drop hlt hstep

/-- What ends a walk ends the scan. -/
theorem answer_of_ended (h : w.step m t = .error answer) : answer = found? (w.rest m t) := by
  rcases ends_of_step h with ⟨hend, rfl⟩ | ⟨hlt, hopen, hclose, hdepth, rfl⟩
  · rw [rest, List.drop_eq_nil_of_le hend]
    rfl
  · rw [rest, scan_drop_ends hlt ((step_closing hopen hclose).trans (if_pos (.inl hdepth)))]
    rfl

/-- **A whole walk** has no more steps than it can spend, and finds what the scan finds. -/
theorem Runs.outcome {n : Nat} (h : Runs m t n w answer) : n ≤ w.potential t ∧ answer = found? (w.rest m t) := by
  rcases exists_runs_iff.1 ⟨n, answer, h⟩ with hm | hend
  · induction h with
    | ended hend => exact ⟨Nat.zero_le _, answer_of_ended hend⟩
    | step hstep _ ih =>
      have hmoves := moves_of_step hstep
      have hlt := hmoves.potential_lt hm
      obtain ⟨hle, hanswer⟩ := ih
      exact ⟨by omega, by rw [hanswer, hmoves.rest_eq hm]⟩
  · obtain ⟨rfl, rfl⟩ := h.of_end hend
    rw [rest, List.drop_eq_nil_of_le hend]
    exact ⟨Nat.zero_le _, rfl⟩

end Answer

end Walk

/-! ## Matches lie in the text -/

section Bounds

variable {m : Markers} {t : Text} {start : Nat}

/-- An alternative marker stands at a position as a whole, between a start and a limit. -/
structure Splits (m : Markers) (t : Text) (start limit e : Nat) : Prop where
  start_le : start ≤ e
  whole : ∃ marker ∈ m.alternative, occursAt marker t e = true ∧ e + marker.length ≤ limit

/-- A match whose markers stand in the text from a start on, the alternative one before the closing one. -/
structure InBounds (m : Markers) (t : Text) (start : Nat) (found : TagMatch) : Prop where
  start_le : start ≤ found.closePos
  closePos_lt : found.closePos < t.length
  closing : occursAt m.closing t found.closePos = true
  alternative : ∀ e ∈ found.elsePos, m.Splits t start found.closePos e

theorem Splits.mono {limit limit' e : Nat} (h : m.Splits t start limit e) (hle : limit ≤ limit') :
    m.Splits t start limit' e where
  start_le := h.start_le
  whole := by
    obtain ⟨marker, hmarker, hocc, hwhole⟩ := h.whole
    exact ⟨marker, hmarker, hocc, Nat.le_trans hwhole hle⟩

/-- The closing marker of a match stands in the text as a whole. -/
theorem InBounds.closing_le {found : TagMatch} (h : m.InBounds t start found) :
    found.closePos + m.closing.length ≤ t.length := by
  have hlt := h.closePos_lt
  have hlength := Text.length_le_of_occursAt h.closing
  omega

namespace Walk

variable {w w' : Walk} {answer : Option TagMatch} {n : Nat}

/-- The places that a walk has are in order: the start, the alternative marker as a whole, and the cursor. -/
structure Ordered (m : Markers) (t : Text) (start : Nat) (w : Walk) : Prop where
  start_le : start ≤ w.pos
  alternative : ∀ e ∈ w.elsePos, m.Splits t start w.pos e

theorem ordered_start (m : Markers) (t : Text) (start : Nat) : Ordered m t start (.start start) where
  start_le := Nat.le_refl _
  alternative := nofun

/-- **One step** keeps the places in order. -/
theorem Ordered.moves (hw : Ordered m t start w) (h : Moves m t w w') : Ordered m t start w' := by
  cases h with
  | alternative hlt _ _ hmarker hocc =>
    refine ⟨Nat.le_trans hw.start_le (Nat.le_add_right _ _), fun e he => ?_⟩
    cases he
    exact ⟨hw.start_le, _, hmarker, hocc, Nat.le_refl _⟩
  | _ => exact ⟨Nat.le_trans hw.start_le (Nat.le_add_right _ _),
      fun e he => (hw.alternative e he).mono (Nat.le_add_right _ _)⟩

/-- **A whole walk** finds a match that lies in the text. -/
theorem Runs.inBounds (h : Runs m t n w answer) (hw : Ordered m t start w) :
    ∀ found ∈ answer, m.InBounds t start found := by
  induction h with
  | ended hend =>
    intro found hfound
    rcases ends_of_step hend with ⟨-, rfl⟩ | ⟨hlt, -, hclose, -, rfl⟩
    · cases hfound
    · cases hfound
      exact ⟨hw.start_le, hlt, hclose, hw.alternative⟩
  | step hstep _ ih => exact ih (hw.moves (moves_of_step hstep))

end Walk

/-- The match of a tag lies in the text. -/
theorem matchFrom_inBounds {found : TagMatch} (hm : m.opening ≠ []) (h : m.matchFrom t start = some found) :
    m.InBounds t start found := by
  obtain ⟨n, answer, hruns⟩ := Walk.exists_runs (t := t) hm (.start start)
  obtain rfl : answer = some found := hruns.outcome.2.trans h
  exact hruns.inBounds (Walk.ordered_start m t start) found rfl

end Bounds

end Markers

end Stencil
