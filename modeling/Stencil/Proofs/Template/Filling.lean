import Stencil.Proofs.Directive.Holding
import Stencil.Proofs.Directive.Spacing
import Stencil.Proofs.Template.Outcomes

/-!
# Filling spaced templates

* **Separate texts** (`Slots.Separate`): no token that begins in a text before a separate one reaches into it, so that
  the two are filled each on its own.
* A document of a spaced template is its evaluation with the tokens in the values of placeholders replaced, whatever
  these values are (`evalWith_of_run_fillBody`).
* A spaced template that evaluates is rendered to its evaluation (`run_fillBody_of_eval`), where no value that a
  placeholder shows holds both slot characters, and tokens are numbered within the digit limit. Values that are held or
  not shown at all may be any.
-/

namespace Stencil

open Markup

/-! ## Separate texts -/

namespace Slots

variable {s : Slots} {t u : Text}

/-- The text is empty or starts with a character that no token goes on with. -/
def Separate (t : Text) : Prop := ∀ c ∈ t.head?, Text.isDigit c = false ∧ c ≠ slotClose

theorem pieces_append_separate (ht : Separate t) (u : Text) :
    Text.pieces slotDigits? (u ++ t) = Text.pieces slotDigits? u ++ Text.pieces slotDigits? t := by
  cases t with
  | nil => simp
  | cons c cs =>
    obtain ⟨hdigit, hclose⟩ := ht c rfl
    refine ended_slotDigits?.toLocal.pieces_append (c :: cs) u ?_
    rintro v w digits width rfl hw hread
    obtain ⟨-, hdigits, rfl, rest, hsplit⟩ := slotDigits?_eq_some_iff.1 hread
    refine Nat.le_of_not_lt fun hlt => ?_
    -- the separate text would start among the digits of the token or at its end
    obtain ⟨x, xs, rfl⟩ := List.exists_cons_of_ne_nil hw
    rw [List.cons_append, List.cons_append] at hsplit
    have htail : xs ++ c :: cs = digits ++ [slotClose] ++ rest := (List.cons.inj hsplit).2
    have hinside : (digits ++ [slotClose])[xs.length]? = some c := by
      have hlength : xs.length < (digits ++ [slotClose]).length := by
        simp only [List.length_cons, List.length_append, List.length_nil] at hlt ⊢
        omega
      have hleft : (digits ++ [slotClose] ++ rest)[xs.length]? = (digits ++ [slotClose])[xs.length]? :=
        List.getElem?_append_left hlength
      rw [← hleft, ← htail]
      simp
    rcases List.mem_append.1 (List.mem_of_getElem? hinside) with hmem | hmem
    · rw [hdigits c hmem] at hdigit
      cases hdigit
    · exact hclose (List.mem_singleton.1 hmem)

theorem fill_append_separate (ht : Separate t) (u : Text) : s.fill (u ++ t) = s.fill u ++ s.fill t := by
  rw [fill_eq, pieces_append_separate ht, List.flatMap_append, ← fill_eq, ← fill_eq]

theorem overlong?_append_separate (ht : Separate t) (u : Text) :
    overlong? (u ++ t) = (overlong? u).or (overlong? t) := by
  rw [overlong?_eq, pieces_append_separate ht, List.findSome?_append, ← overlong?_eq, ← overlong?_eq]

/-- The text does not hold both slot characters, so that it holds no token. -/
def Untokened (t : Text) : Prop := slotOpen ∉ t ∨ slotClose ∉ t

theorem Untokened.unread (h : Untokened u) : Unread u [] := by
  rcases h with h | h
  · exact unread_of_not_open h []
  · exact unread_of_not_close h (by simp [NoEarlyClose])

theorem Untokened.fill_eq (h : Untokened u) (s : Slots) : s.fill u = u := by
  simpa using h.unread.fill_append s

theorem Untokened.overlong?_eq_none (h : Untokened u) : overlong? u = none := by
  rw [← List.append_nil u, h.unread.overlong?_append]
  rfl

/-- What is restored is filled. -/
theorem eq_fill_of_restore {document : Text} (h : s.restore t = .ok document) : document = s.fill t := by
  cases hlong : overlong? t with
  | none => exact (Except.ok.inj ((s.restore_eq_fill hlong).symm.trans h)).symm
  | some count =>
    cases s with
    | nil =>
      rw [fill_of_none_held]
      exact (Except.ok.inj h).symm
    | cons x xs =>
      rw [restore_eq_error (s := x :: xs) (Nat.succ_pos _) hlong] at h
      cases h

end Slots

/-! ## Flat trees -/

namespace Markup

/-- What placeholders show outside all loops once the tokens in it are replaced. -/
def restoredText (s : Slots) (vars : Fields) (metadata : Metadata) (n : Text) : Except TextFault Text :=
  s.fill <$> outsideText vars metadata n

section Flat

variable {m : Markup} {vars : Fields} {metadata : Metadata} {s : Slots} {next : Bool} {filled : Text}

/-- What a flat tree that starts apart evaluates to is separate. -/
theorem separate_eval (hflat : m.Flat) (hstarts : m.startsApart next = true) {scope : Scope}
    (heval : m.eval metadata scope = .ok filled) : Slots.Separate filled := by
  induction m generalizing filled with
  | done =>
    cases heval
    exact fun _ hc => nomatch hc
  | text t rest ih =>
    obtain ⟨after, hafter, rfl⟩ := map_eq_ok_iff.1 heval
    cases t with
    | nil => exact ih hflat hstarts hafter
    | cons c cs =>
      intro x hx
      cases hx
      simpa [startsApart] using hstarts
  | place n rest ih => cases hstarts
  | when n yes rest _ _ => exact hflat.elim
  | choice n yes no rest _ _ _ => exact hflat.elim
  | each n body rest _ _ => exact hflat.elim

/-- The placeholder at the head of a flat spaced tree shows a text, and what comes after it is separate. -/
theorem eval_place_spaced {n : Text} (rest : Markup) (hflat : rest.Flat)
    (hspaced : (place n rest).spaced next = true)
    (heval : (place n rest).eval metadata (.outer vars) = .ok filled) : ∃ u after,
      outsideText vars metadata n = .ok u ∧ rest.eval metadata (.outer vars) = .ok after ∧ filled = u ++ after ∧
        Slots.Separate after ∧ rest.spaced next = true := by
  simp only [spaced, Bool.and_eq_true] at hspaced
  obtain ⟨u, hu, hrest⟩ := bind_eq_ok_iff.1 heval
  obtain ⟨after, hafter, rfl⟩ := map_eq_ok_iff.1 hrest
  rw [evalPlace_eq_placeWith, placeWith_outer] at hu
  exact ⟨u, after, hu, hafter, rfl, separate_eval hflat hspaced.1 hafter, hspaced.2⟩

/-- Filling the tokens of what a flat spaced tree evaluates to fills its own, and those of the values in it. -/
theorem meaning_restored (hflat : m.Flat) (hm : m.Formed s.Held) (hspaced : m.spaced next = true)
    (heval : m.eval metadata (.outer vars) = .ok filled) :
    m.meaning (restoredText s vars metadata) s (.outer vars) = .ok (s.fill filled) := by
  induction m generalizing filled with
  | done =>
    cases heval
    rfl
  | text t rest ih =>
    obtain ⟨after, hafter, rfl⟩ := map_eq_ok_iff.1 heval
    rw [meaning_text, ih hflat hm.2 hspaced hafter, Slots.fill_issued_append hm.1.issued]
    rfl
  | place n rest ih =>
    obtain ⟨u, after, hu, hafter, rfl, hseparate, hrest⟩ :=
      eval_place_spaced rest hflat hspaced heval
    rw [meaning_place, placeWith_outer, restoredText, hu, ih hflat hm.2.2 hrest hafter,
      Slots.fill_append_separate hseparate]
    rfl
  | when n yes rest _ _ => exact hflat.elim
  | choice n yes no rest _ _ _ => exact hflat.elim
  | each n body rest _ _ => exact hflat.elim

/-- What a flat spaced tree evaluates to has no token of too many digits, if the values in it have none. -/
theorem overlong?_eval (hflat : m.Flat) (hm : m.Formed s.Held) (hspaced : m.spaced next = true)
    (heval : m.eval metadata (.outer vars) = .ok filled) (hcount : s.length ≤ digitBound)
    (hshown : ∀ n ∈ m.left (.outer vars), ∀ u, outsideText vars metadata n = .ok u → Slots.overlong? u = none) :
    Slots.overlong? filled = none := by
  induction m generalizing filled with
  | done =>
    cases heval
    rfl
  | text t rest ih =>
    obtain ⟨after, hafter, rfl⟩ := map_eq_ok_iff.1 heval
    have hrest := ih hflat hm.2 hspaced hafter hshown
    rcases hm.1 with hplain | ⟨i, hi, rfl⟩
    · rw [(Slots.unread_of_slotFree (slotFree_of_plain hplain) _).overlong?_append, hrest]
    · rw [Slots.overlong?_slotToken_append (Nat.lt_of_lt_of_le hi hcount), hrest]
  | place n rest ih =>
    obtain ⟨u, after, hu, hafter, rfl, hseparate, hspacedRest⟩ :=
      eval_place_spaced rest hflat hspaced heval
    obtain ⟨hhere, hlater⟩ := List.forall_mem_cons.1 hshown
    rw [Slots.overlong?_append_separate hseparate, hhere u hu, ih hflat hm.2.2 hspacedRest hafter hlater]
    rfl
  | when n yes rest _ _ => exact hflat.elim
  | choice n yes no rest _ _ _ => exact hflat.elim
  | each n body rest _ _ => exact hflat.elim

/-- A flat tree means what its placeholders show. -/
theorem meaning_congr_left {outside outside' : Text → Except TextFault Text} (hflat : m.Flat)
    (h : ∀ n ∈ m.left (.outer vars), outside n = outside' n) :
    m.meaning outside s (.outer vars) = m.meaning outside' s (.outer vars) := by
  induction m with
  | done => rfl
  | text t rest ih => rw [meaning_text, meaning_text, ih hflat h]
  | place n rest ih =>
    obtain ⟨hhere, hlater⟩ := List.forall_mem_cons.1 h
    rw [meaning_place, meaning_place, placeWith_outer, placeWith_outer, hhere, ih hflat hlater]
  | when n yes rest _ _ => exact hflat.elim
  | choice n yes no rest _ _ _ => exact hflat.elim
  | each n body rest _ _ => exact hflat.elim

end Flat

/-! ## Resolved templates -/

/-- The tree that is left when a spaced template is resolved. -/
structure Remains (m : Markup) (vars : Fields) (ledger : Ledger) (m' : Markup) : Prop where
  flat : m'.Flat
  formed : m'.Formed ledger.slots.Held
  spaced : m'.spaced true = true
  left : m'.left (.outer vars) = m.left (.outer vars)
  /-- Whatever the placeholders that are left show, it means what the template does. -/
  meaning (outside : Text → Except TextFault Text) :
    m'.meaning outside ledger.slots (.outer vars) = m.evalWith outside (.outer vars)

theorem exists_remains {m : Markup} (hm : m.WellFormed) (hspaced : m.spaced true = true) {budget : Nat}
    (hb : max 1 m.depth ≤ budget) {vars : Fields} (hcounted : ∀ name v, vars.get? name = some v → v.Counted)
    {resolved : Text} {ledger : Ledger}
    (h : (resolveDirectives budget m.print vars).run .empty = .ok resolved ledger) :
    ∃ m', resolved = m'.print ∧ m.Remains vars ledger m' := by
  obtain ⟨hpasses, hdepth⟩ := Nat.max_le.1 hb
  rw [resolveDirectives_print hm.braceFree] at h
  obtain ⟨m', hrun, rfl⟩ := Resolve.run_map_eq_ok h
  have hheld : m.Formed Ledger.empty.slots.Held := ((formed_plain_iff m).2 hm).mono fun _ h => .inl h
  have hmeans : ∀ outside, Means outside (.outer vars) _ .empty _ := fun _ =>
    means_resolve Value.hereditary_counted Value.countable_counted hpasses (depthAllowance m.print) _ m .empty
      (.outer hcounted) ((depth_le_iff m).1 hdepth).2 hheld
  have htighter := ensures_tighter_resolve hpasses (depthAllowance m.print) (.outer vars) m hm.braceFree
    ((depth_le_iff m).1 hdepth).2 .empty m' ledger hrun
  have hresolves := succeedsIff_resolve hpasses (depthAllowance m.print) m hm.braceFree hdepth
    (loopDepth_lt_depthAllowance m) (.outer vars)
  obtain ⟨hflat, hleft⟩ := hresolves.post .empty m' ledger hrun
  exact ⟨m', rfl, {
    flat := hflat
    formed := (hmeans (restoredText ledger.slots vars ⟨.null, .null, .null⟩) m' ledger hrun).2.1
    spaced := htighter.spaced true hspaced
    left := hleft (.outer vars)
    meaning := fun outside => (hmeans outside m' ledger hrun).2.2.trans (meaning_of_none_held _ m) }⟩

end Markup

/-! ## Documents -/

namespace Engine

section Documents

variable {m : Markup} (hm : m.WellFormed) (hspaced : m.spaced true = true) {budget : Nat}
  (hb : max 1 m.depth ≤ budget) {vars : Fields} {metadata : Metadata} {document : Text}

include hm hspaced hb

/-- **Every document of a spaced template** is its evaluation with the tokens in the shown values replaced. -/
theorem evalWith_of_run_fillBody (hcounted : ∀ name v, vars.get? name = some v → v.Counted) {ledger : Ledger}
    (hrun : (fillBody budget m.print vars metadata).run .empty = .ok document ledger) :
    m.evalWith (restoredText ledger.slots vars metadata) (.outer vars) = .ok document := by
  obtain ⟨resolved, ledger', hres, -⟩ := Resolve.run_bind_eq_ok hrun
  obtain ⟨m', rfl, hremains⟩ := exists_remains hm hspaced hb hcounted hres
  rw [run_fillBody_of_resolved hres,
    substitute_print hremains.flat (hremains.formed.mono fun _ h => h.braceFree)] at hrun
  cases heval : m'.eval metadata (.outer vars) with
  | error why =>
    rw [heval] at hrun
    cases hrun
  | ok filled =>
    rw [heval] at hrun
    simp only at hrun
    cases hput : ledger'.slots.restore filled with
    | error count =>
      rw [hput] at hrun
      cases hrun
    | ok restored =>
      rw [hput] at hrun
      cases hrun
      rw [← hremains.meaning, meaning_restored hremains.flat hremains.formed hremains.spaced heval,
        Slots.eq_fill_of_restore hput]

/-- **A spaced template that evaluates is rendered to its evaluation**, where its loops stand in at most one conditional
of each kind, no value that a placeholder shows holds a token, and the held texts are few enough for their tokens to be
read. -/
theorem run_fillBody_of_eval {a b k : Nat} (hone : a ≤ 1 ∧ b ≤ 1) (hloops : m.LoopsUnder a b a b) (hk : 0 < k)
    (hbound : k ≤ digitBound) (hheld : m.holdBound k ≤ digitBound)
    (hsized : ∀ name v, vars.get? name = some v → v.Sized k)
    (hshown : ∀ n ∈ m.left (.outer vars), ∀ u, outsideText vars metadata n = .ok u → Slots.Untokened u)
    (heval : m.eval metadata (.outer vars) = .ok document) :
    ∃ ledger, (fillBody budget m.print vars metadata).run .empty = .ok document ledger := by
  have hcounted : ∀ name v, vars.get? name = some v → v.Counted := fun name v h w hw items hi =>
    Nat.le_trans (hsized name v h w hw items hi) hbound
  obtain ⟨resolved, ledger, filled, hres, hsub⟩ := fills_of_evaluates hm hb hone hloops ⟨document, heval⟩
  obtain ⟨m', rfl, hremains⟩ := exists_remains hm hspaced hb hcounted hres
  have hcount : ledger.slots.length ≤ digitBound := Nat.le_trans (holds_le_holdBound hk hm hsized hres) hheld
  have hfilled : m'.eval metadata (.outer vars) = .ok filled := by
    rw [← substitute_print hremains.flat (hremains.formed.mono fun _ h => h.braceFree), hsub]
  have hshort : Slots.overlong? filled = none :=
    overlong?_eval hremains.flat hremains.formed hremains.spaced hfilled hcount fun n hn u hu =>
      (hshown n (hremains.left ▸ hn) u hu).overlong?_eq_none
  -- the values that are shown stay as they are when tokens are replaced
  have hsame : ∀ n ∈ m'.left (.outer vars),
      restoredText ledger.slots vars metadata n = outsideText vars metadata n := by
    intro n hn
    cases hu : outsideText vars metadata n with
    | error fault => rw [restoredText, hu]; rfl
    | ok u =>
      rw [restoredText, hu]
      exact congrArg Except.ok ((hshown n (hremains.left ▸ hn) u hu).fill_eq ledger.slots)
  have hwoven : m.eval metadata (.outer vars) = m.evalWith (outsideText vars metadata) (.outer vars) :=
    eval_eq_evalWith metadata m (.outer vars)
  have hdocument : Except.ok (ledger.slots.fill filled) = Except.ok (ε := TextFault) document := by
    rw [← meaning_restored hremains.flat hremains.formed hremains.spaced hfilled,
      meaning_congr_left hremains.flat hsame, hremains.meaning, ← hwoven, heval]
  refine ⟨ledger, ?_⟩
  rw [run_fillBody_of_resolved hres, hsub]
  simp only [ledger.slots.restore_eq_fill hshort, Except.ok.inj hdocument]

end Documents

end Engine

end Stencil
