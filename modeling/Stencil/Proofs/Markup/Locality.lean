import Stencil.Proofs.Markup.Balance

/-!
# What a match depends on

* A match depends on the positions of the markers of its kind alone, from the start up to the closing marker
  (`Markers.Agree`, `Agree.balanced`).
* Hence what stands after the closing marker does not matter (`matchFrom_take`), nor what the markers of another kind
  are written over with (`agree_overwritten`), nor what stands before the start (`matchFrom_shift`).
* **The match of a tag is the balanced one** (`matchFrom_balanced`).
-/

namespace Stencil

open Text (occursAt occurrences)

/-- A match in a text that stands so many characters further on. -/
def TagMatch.shift (n : Nat) (found : TagMatch) : TagMatch := ⟨found.closePos + n, found.elsePos.map (· + n)⟩

namespace Markers

variable {kind kind' : TagKind} {m : Markers} {u v t t' : Text} {i : Nat}

/-! ## Texts with the same markers -/

section Agreement

variable {start limit : Nat}

/-- The markers of a kind stand at the same positions of two texts, from a start on and up to a limit. -/
def Agree (m : Markers) (t t' : Text) (start limit : Nat) : Prop :=
  ∀ u, u ∈ m.all → ∀ i, start ≤ i → i ≤ limit → occursAt u t' i = occursAt u t i

theorem Agree.symm (h : m.Agree t t' start limit) : m.Agree t' t start limit :=
  fun u hu i hi hle => (h u hu i hi hle).symm

/-- A kind's own markers are counted alike. -/
theorem Agree.occurrences_eq (h : m.Agree t t' start limit) (hu : u ∈ m.all) (hi : start ≤ i)
    (hle : i ≤ limit + 1) : occurrences u t' start i = occurrences u t start i :=
  Text.occurrences_congr hi fun j hj hlt => h u hu j hj (by omega)

theorem Agree.closesAt (h : m.Agree t t' start limit) {p : Nat} (hp : p ≤ limit)
    (hcloses : m.ClosesAt t start p) : m.ClosesAt t' start p where
  start_le := hcloses.start_le
  closing := (h _ (closing_mem_all _) p hcloses.start_le hp).trans hcloses.closing
  balance := by
    have hle := hcloses.start_le
    rw [h.occurrences_eq (opening_mem_all _) hle (by omega), h.occurrences_eq (closing_mem_all _) (by omega) (by omega),
      hcloses.balance]

theorem Agree.splitsAt (h : m.Agree t t' start limit) {e : Nat} (hsplits : m.SplitsAt t start limit e) :
    m.SplitsAt t' start limit e where
  start_lt := hsplits.start_lt
  lt_limit := hsplits.lt_limit
  alternative := by
    obtain ⟨marker, hmarker, hocc⟩ := hsplits.alternative
    have hlt := hsplits.start_lt
    have hlimit := hsplits.lt_limit
    exact ⟨marker, hmarker, (h _ (alternative_mem_all hmarker) e (by omega) (by omega)).trans hocc⟩
  balance := by
    have hlt := hsplits.start_lt
    have hlimit := hsplits.lt_limit
    rw [h.occurrences_eq (opening_mem_all _) (by omega) (by omega),
      h.occurrences_eq (closing_mem_all _) (by omega) (by omega), hsplits.balance]

/-- What is balanced in a text is balanced in any other one with the same markers up to the closing one. -/
theorem Agree.balanced {found : TagMatch} (h : m.Agree t t' start found.closePos)
    (hbalanced : m.Balanced t start found) : m.Balanced t' start found where
  closes := by
    refine ⟨h.closesAt (Nat.le_refl _) hbalanced.closes.1, fun q hq => ?_⟩
    by_contra hlt
    exact hlt (hbalanced.closes.2 (h.symm.closesAt (Nat.le_of_not_le hlt) hq))
  split := by
    obtain ⟨p, o⟩ := found
    have hsplit := hbalanced.split
    cases o with
    | none => exact fun e he => hsplit e (h.symm.splitsAt he)
    | some e => exact ⟨h.splitsAt hsplit.1, fun e' he' => hsplit.2 (h.symm.splitsAt he')⟩

/-- Texts in which a kind's own markers stand at the same positions from the start on have the same match. -/
theorem matchFrom_congr (h : occursAt kind.markers.opening t start = true)
    (hagree : ∀ limit, kind.markers.Agree t t' start limit) :
    kind.markers.matchFrom t' start = kind.markers.matchFrom t start := by
  have h' : occursAt kind.markers.opening t' start = true :=
    (hagree start _ (opening_mem_all _) start (Nat.le_refl _) (Nat.le_refl _)).trans h
  refine Option.ext fun found => ?_
  rw [matchFrom_eq_some_iff h, matchFrom_eq_some_iff h']
  exact ⟨(hagree _).symm.balanced, (hagree _).balanced⟩

/-! ## Changes that do not matter -/

/-- Up to a closing marker, where a marker stands depends on the characters up to its end alone. -/
theorem occursAt_of_take {p : Nat} (hclose : occursAt kind.markers.closing t p = true)
    (hsame : ∀ k, k < p + kind.markers.closing.length → t'[k]? = t[k]?) (hu : u ∈ kind.markers.all) (hi : i ≤ p)
    (hocc : occursAt u t i = true) : occursAt u t' i = true := by
  have hend : i + u.length ≤ p + kind.markers.closing.length := by
    rcases Nat.lt_or_eq_of_le hi with hlt | rfl
    · have := Text.length_le_of_occursAt_lt (isTag_of_mem_all hu) (isTag_of_mem_all (closing_mem_all _)) hocc hclose hlt
      omega
    · rw [eq_of_occursAt hu (closing_mem_all _) hocc hclose]
  rw [Text.occursAt_iff] at hocc ⊢
  intro k hk
  rw [hsame _ (by omega), hocc k hk]

/-- What stands after the closing marker does not matter. -/
theorem matchFrom_take (h : occursAt kind.markers.opening t start = true) {found : TagMatch}
    (hfound : kind.markers.matchFrom t start = some found) (rest : Text) :
    kind.markers.matchFrom (t.take (found.closePos + kind.markers.closing.length) ++ rest) start = some found := by
  have hbalanced := (matchFrom_eq_some_iff h).1 hfound
  obtain ⟨hcloses, -⟩ := hbalanced.closes
  have hclosing : 0 < kind.markers.closing.length := by cases kind <;> decide
  have hlength := Text.length_le_of_occursAt hcloses.closing
  have hsame : ∀ k, k < found.closePos + kind.markers.closing.length →
      (t.take (found.closePos + kind.markers.closing.length) ++ rest)[k]? = t[k]? := by
    intro k hk
    rw [List.getElem?_append_left (by rw [List.length_take]; omega), List.getElem?_take_of_lt hk]
  have hclose := occursAt_of_take hcloses.closing hsame (closing_mem_all _) (Nat.le_refl _) hcloses.closing
  have hagree : kind.markers.Agree t (t.take (found.closePos + kind.markers.closing.length) ++ rest) start
      found.closePos := by
    intro u hu i _ hi
    rw [Bool.eq_iff_iff]
    exact ⟨occursAt_of_take hclose (fun k hk => (hsame k hk).symm) hu hi, occursAt_of_take hcloses.closing hsame hu hi⟩
  exact (matchFrom_eq_some_iff ((hagree _ (opening_mem_all _) start (Nat.le_refl _) hcloses.start_le).trans h)).2
    (hagree.balanced hbalanced)

/-- No marker meets one of another kind. -/
theorem occursAt_eq_false_of_meets (hkind : kind' ≠ kind) (hu : u ∈ kind'.markers.all)
    (hv : v ∈ kind.markers.all) {j : Nat} (hocc : occursAt u t j = true) (hbefore : j < i + v.length)
    (hafter : i < j + u.length) : occursAt v t i = false := by
  rcases Nat.lt_trichotomy i j with hlt | rfl | hlt
  · rw [Bool.eq_false_iff]
    intro h
    have := Text.length_le_of_occursAt_lt (isTag_of_mem_all hv) (isTag_of_mem_all hu) h hocc hlt
    omega
  · exact occursAt_eq_false_of_ne hkind hu hv hocc
  · rw [Bool.eq_false_iff]
    intro h
    have := Text.length_le_of_occursAt_lt (isTag_of_mem_all hu) (isTag_of_mem_all hv) hocc h hlt
    omega

/-- No text meets one that it shares no character with. -/
theorem occursAt_eq_false_of_disjoint {w : Text} (hw : ∀ c ∈ w, c ∉ v) (a b : Text) (hv : 0 < v.length)
    (hpos : 0 < w.length) (hbefore : a.length < i + v.length) (hafter : i < a.length + w.length) :
    occursAt v (a ++ w ++ b) i = false := by
  rw [Bool.eq_false_iff, Ne, Text.occursAt_iff]
  intro h
  obtain ⟨k, hk, hge, hlt⟩ : ∃ k, k < v.length ∧ a.length ≤ i + k ∧ i + k < a.length + w.length := by
    by_cases hi : i < a.length
    · exact ⟨a.length - i, by omega, by omega, by omega⟩
    · exact ⟨0, by omega, by omega, by omega⟩
  have hchar := h k hk
  rw [List.append_assoc, List.getElem?_append_right hge, List.getElem?_append_left (by omega)] at hchar
  exact hw _ (List.mem_of_getElem? hchar) (List.getElem_mem hk)

/-- What a marker of another kind is written over with does not matter, if it shares no character with the kind's own
markers. -/
theorem agree_overwritten (hkind : kind' ≠ kind) (hu : u ∈ kind'.markers.all) {w : Text}
    (hlength : w.length = u.length) (hw : ∀ v, v ∈ kind.markers.all → ∀ c ∈ w, c ∉ v) (a b : Text)
    (start limit : Nat) : kind.markers.Agree (a ++ u ++ b) (a ++ w ++ b) start limit := by
  intro v hv i _ _
  by_cases hbefore : i + v.length ≤ a.length
  · rw [Bool.eq_iff_iff, Text.occursAt_iff, Text.occursAt_iff]
    refine forall_congr' fun k => forall_congr' fun hk => ?_
    rw [List.append_assoc, List.append_assoc, List.getElem?_append_left (by omega),
      List.getElem?_append_left (by omega)]
  by_cases hafter : a.length + u.length ≤ i
  · rw [Bool.eq_iff_iff, Text.occursAt_iff, Text.occursAt_iff]
    refine forall_congr' fun k => forall_congr' fun hk => ?_
    rw [List.getElem?_append_right (by simp; omega), List.getElem?_append_right (by simp; omega)]
    simp [hlength]
  -- the marker meets the one written over, and what is written
  have hocc : occursAt u (a ++ u ++ b) a.length = true := by simp [occursAt]
  have hpos := three_lt_length hu
  have hpos' := three_lt_length hv
  rw [occursAt_eq_false_of_meets hkind hu hv hocc (by omega) (by omega),
    occursAt_eq_false_of_disjoint (hw v hv) a b (by omega) (by omega) (by omega) (by omega)]

end Agreement

/-! ## What stands before the start -/

/-- The positions of a scan of a text that stands so many characters further on. -/
def Progress.shift (n : Nat) (p : Progress) : Progress := ⟨p.pos + n, p.skip, p.depth, p.elsePos.map (· + n)⟩

/-- A result of a scan, of a text that stands so many characters further on. -/
def shiftFound (n : Nat) : Except TagMatch Progress → Except TagMatch Progress
  | .ok p => .ok (p.shift n)
  | .error found => .error (found.shift n)

theorem step_shift (m : Markers) (n : Nat) (t : Text) (p : Progress) :
    m.step t (p.shift n) = shiftFound n (m.step t p) := by
  have hsplits : m.splitsHere p.depth (p.elsePos.map (· + n)) t = m.splitsHere p.depth p.elsePos t := by
    simp [splitsHere]
  have hok : ∀ p : Progress, shiftFound n (.ok p) = .ok (p.shift n) := fun _ => rfl
  have herror : ∀ found, shiftFound n (.error found) = .error (found.shift n) := fun _ => rfl
  simp only [Markers.step, apply_ite (shiftFound n), hok, herror, Progress.shift, TagMatch.shift, hsplits,
    Nat.add_right_comm _ n 1, Option.map_some]

theorem scan_shift (m : Markers) (n : Nat) : ∀ (t : Text) (p : Progress),
    m.scan t (p.shift n) = shiftFound n (m.scan t p)
  | [], _ => rfl
  | c :: cs, p => by
    rw [Markers.scan, Markers.scan, step_shift]
    cases m.step (c :: cs) p with
    | ok p' => exact scan_shift m n cs p'
    | error found => rfl

/-- What stands before the start does not matter. -/
theorem matchFrom_shift (m : Markers) (a t : Text) :
    m.matchFrom (a ++ t) a.length = (m.matchFrom t 0).map (·.shift a.length) := by
  have hstart : Progress.start a.length = (Progress.start 0).shift a.length := by simp [Progress.start, Progress.shift]
  rw [matchFrom, matchFrom, List.drop_left, List.drop_zero, hstart, scan_shift]
  cases m.scan t (.start 0) <;> rfl

/-! ## The match of a tag -/

/-- **The match of a tag is the balanced one.** From a position with an opening marker, the match is at the first
closing marker up to which there are as many closing markers as opening ones before it, with the first alternative
marker that stands at depth one between them, and there is no match exactly where no closing marker balances. The match
stays the same, up to its position, whatever stands before the start, whatever stands after the closing marker, and
whatever the markers of another kind are written over with. -/
theorem matchFrom_balanced (kind : TagKind) (t : Text) (start : Nat)
    (h : occursAt kind.markers.opening t start = true) :
    (∀ found, kind.markers.matchFrom t start = some found ↔ kind.markers.Balanced t start found) ∧
    (kind.markers.matchFrom t start = none ↔ ∀ p, ¬kind.markers.ClosesAt t start p) ∧
    (∀ before, kind.markers.matchFrom (before ++ t.drop start) before.length
      = (kind.markers.matchFrom (t.drop start) 0).map (·.shift before.length)) ∧
    (∀ found after, kind.markers.matchFrom t start = some found →
      kind.markers.matchFrom (t.take (found.closePos + kind.markers.closing.length) ++ after) start = some found) ∧
    ∀ kind' u a b w, kind' ≠ kind → u ∈ kind'.markers.all → t = a ++ u ++ b → w.length = u.length →
      (∀ v ∈ kind.markers.all, ∀ c ∈ w, c ∉ v) →
        kind.markers.matchFrom (a ++ w ++ b) start = kind.markers.matchFrom t start := by
  refine ⟨fun found => matchFrom_eq_some_iff h, matchFrom_eq_none_iff h, fun before => matchFrom_shift _ _ _,
    fun found after hfound => matchFrom_take h hfound after, ?_⟩
  rintro kind' u a b w hkind hu rfl hlength hw
  exact matchFrom_congr h (agree_overwritten hkind hu hlength hw a b start)

/-- A tag after a closing marker that closes nothing, with a loop and a whole conditional before its second branch. -/
def strayThenNested : Text :=
  conditionalMarkers.closing ++ (Markup.ifElse "a" (Markup.forEach "b" (Markup.slot "this") ++
    Markup.ifElse "c" (Markup.lit "x") (Markup.lit "y")) (Markup.lit "z")).print ++ conditionalMarkers.closing

/-- The match skips the conditional inside, and neither the loop nor the stray markers around the tag count. -/
theorem strayThenNested_balanced :
    occursAt conditionalMarkers.opening strayThenNested 7 = true ∧
    conditionalMarkers.matchFrom strayThenNested 7 = some ⟨79, some 70⟩ ∧
    conditionalMarkers.Balanced strayThenNested 7 ⟨79, some 70⟩ := by
  have hopen : occursAt conditionalMarkers.opening strayThenNested 7 = true := by decide
  have hmatch : conditionalMarkers.matchFrom strayThenNested 7 = some ⟨79, some 70⟩ := by decide
  exact ⟨hopen, hmatch, ((matchFrom_balanced .conditional strayThenNested 7 hopen).1 _).1 hmatch⟩

end Markers

end Stencil
