import Mathlib.Logic.Function.Iterate
import Stencil.Proofs.Directive.Sweeping

/-!
# Turns over conditionals, one after the other

* **A round** (`resolveRound`) is a turn over the conditionals with a second branch and one over those without. A round
  that changes a text takes sixteen characters or more from it, so rounds change a text only so often
  (`lt_of_iterate_ne`).
* **Search** (`Searched`): the places that the turns come to in a text that they do not change, closed loops passed as
  a whole. A text is **settled** (`Settled`) if no tag of a conditional that stands at one of them is closed, and these
  are the texts that a round leaves as they are (`resolveRound_eq_self_iff`).
-/

namespace Stencil

variable {withElse first : Bool} {holds : Text → Bool} {t : Text}

/-! ## Rounds -/

/-- A turn over the conditionals of one sort and after it a turn over those of the other. A pass starts with those that
have a second branch. -/
def resolveRound (first : Bool) (holds : Text → Bool) (t : Text) : Text :=
  resolveConditionals (!first) holds (resolveConditionals first holds t)

/-- The turns of a round do not make up for each other. -/
theorem resolveRound_eq_iff : resolveRound first holds t = t ↔
    ∀ withElse, resolveConditionals withElse holds t = t := by
  constructor
  · intro h
    have hsecond := (resolveConditionals_sublist (!first) holds (resolveConditionals first holds t)).length_le
    rw [← resolveRound, h] at hsecond
    have hfirst : resolveConditionals first holds t = t :=
      (resolveConditionals_sublist first holds t).eq_of_length_le hsecond
    rw [resolveRound, hfirst] at h
    intro withElse
    rcases Bool.eq_or_eq_not withElse first with rfl | rfl
    · exact hfirst
    · exact h
  · intro h
    rw [resolveRound, h first, h]

/-- A round that changes a text takes sixteen characters or more from it. -/
theorem length_resolveRound_add_le (h : resolveRound first holds t ≠ t) :
    (resolveRound first holds t).length + 16 ≤ t.length := by
  have hsecond := (resolveConditionals_sublist (!first) holds (resolveConditionals first holds t)).length_le
  by_cases hfirst : resolveConditionals first holds t = t
  · rw [resolveRound, hfirst] at h ⊢
    exact length_resolveConditionals_add_le h
  · have hle := length_resolveConditionals_add_le hfirst
    rw [resolveRound]
    omega

/-- A text that rounds go on changing loses sixteen characters for each of them. -/
theorem length_iterate_add_le {f : Text → Text} (hf : ∀ t, f t ≠ t → (f t).length + 16 ≤ t.length) (t : Text) :
    ∀ k, f^[k + 1] t ≠ f^[k] t → (f^[k + 1] t).length + 16 * (k + 1) ≤ t.length
  | 0, h => hf t h
  | k + 1, h => by
    rw [Function.iterate_succ_apply'] at h ⊢
    have hlen := hf _ h
    -- A text that stays the same once is the same from there on.
    have hbefore : f^[k + 1] t ≠ f^[k] t := fun heq =>
      h ((congrArg f heq).trans (Function.iterate_succ_apply' f k t).symm)
    have ih := length_iterate_add_le hf t k hbefore
    omega

/-- Rounds change a text at most once for every sixteen characters that it has. -/
theorem lt_of_iterate_ne {k : Nat} (h : (resolveRound first holds)^[k + 1] t ≠ (resolveRound first holds)^[k] t) :
    k < t.length / 16 := by
  have hlen := length_iterate_add_le (fun _ => length_resolveRound_add_le) t k h
  omega

/-! ## Search -/

/-- How far a search goes on from the head of a text: over a closed loop, or else over one character. -/
def searchStep (t : Text) : Nat :=
  match loop? t with
  | some (_, width) => width
  | none => 1

/-- The places of a text that a search from left to right comes to. -/
inductive Searched (t : Text) : Nat → Prop
  | head : Searched t 0
  | next {p : Nat} : Searched t p → Searched t (p + searchStep (t.drop p))

/-- A search comes to the head of a text, and goes on with what stands after its first step. -/
theorem searched_iff {p : Nat} : Searched t p ↔
    p = 0 ∨ ∃ q, p = searchStep t + q ∧ Searched (t.drop (searchStep t)) q := by
  constructor
  · intro h
    induction h with
    | head => exact .inl rfl
    | next _ ih =>
      rcases ih with rfl | ⟨q, rfl, hq⟩
      · exact .inr ⟨0, by simp, .head⟩
      · exact .inr ⟨_, by rw [← List.drop_drop, Nat.add_assoc], hq.next⟩
  · rintro (rfl | ⟨q, rfl, hq⟩)
    · exact .head
    · induction hq with
      | head => simpa using Searched.head.next (t := t)
      | @next p _ ih => simpa [Nat.add_assoc] using ih.next

/-- No closed conditional stands where a search comes to that has a second branch, or none. -/
def Passed (withElse : Bool) (t : Text) : Prop := ∀ p, Searched t p → ∀ tag found,
  ClosedTag .conditional (t.drop p) tag found → found.elsePos.isSome ≠ withElse

/-- A search comes to the head of a text, and to what stands after its first step. -/
theorem passed_iff : Passed withElse t ↔
    (∀ tag found, ClosedTag .conditional t tag found → found.elsePos.isSome ≠ withElse) ∧
      Passed withElse (t.drop (searchStep t)) := by
  constructor
  · intro h
    refine ⟨h 0 .head, fun q hq tag found hclosed => ?_⟩
    rw [List.drop_drop] at hclosed
    exact h _ (searched_iff.2 (.inr ⟨q, rfl, hq⟩)) tag found hclosed
  · rintro ⟨hhead, hrest⟩ p hp tag found hclosed
    rcases searched_iff.1 hp with rfl | ⟨q, rfl, hq⟩
    · exact hhead tag found hclosed
    · rw [← List.drop_drop] at hclosed
      exact hrest q hq tag found hclosed

/-- A turn changes a text that starts with one of its conditionals. -/
theorem resolveConditionals_ne_of_head {tag : OpenTag} {found : TagMatch} (h : ClosedTag .conditional t tag found)
    (helse : found.elsePos.isSome = withElse) : resolveConditionals withElse holds t ≠ t := by
  intro heq
  have hlen := congrArg List.length heq
  rw [resolveConditionals_block (block?_of_closed h helse), List.length_append, Block.resolve] at hlen
  have hbranch := (branch_sublist h (holds (conditionalOf t tag found).name)).2
  have hrest := length_resolveConditionals_le withElse holds
    (t.drop (found.closePos + conditionalMarkers.closing.length))
  have hwidth : found.closePos + conditionalMarkers.closing.length ≤ t.length := h.width_le
  rw [List.length_drop] at hrest
  omega

/-- A turn leaves a text as it is exactly when a search passes all conditionals that belong to the turn. -/
theorem resolveConditionals_eq_self_iff : resolveConditionals withElse holds t = t ↔ Passed withElse t := by
  induction t using Text.pieces_induction (block? withElse) with
  | nil =>
    refine iff_of_true rfl fun p _ tag found hclosed => ?_
    rw [List.drop_nil] at hclosed
    cases hclosed.opening
  | char c cs hread ih =>
    obtain ⟨hloop, hhead⟩ := block?_eq_none_iff.1 hread
    have hstep : searchStep (c :: cs) = 1 := by rw [searchStep, hloop]
    rw [passed_iff, hstep, List.drop_succ_cons, List.drop_zero, ← ih, and_iff_right hhead, resolveConditionals,
      Text.replace_of_none hread, List.cons_inj_right]
    exact Iff.rfl
  | item c cs b width hread ih =>
    obtain ⟨hpos, -⟩ := (ended_block? withElse).last_eq hread
    have hdrop : (c :: cs).drop width = cs.drop (width - 1) := by
      obtain ⟨w, rfl⟩ := Nat.exists_eq_succ_of_ne_zero hpos.ne'
      rfl
    rcases block?_eq_some_iff.1 hread with ⟨rfl, l, hl⟩ | ⟨choice, rfl, helse, hc⟩
    · have hstep : searchStep (c :: cs) = width := by rw [searchStep, hl]
      have hhead : ∀ tag found, ClosedTag .conditional (c :: cs) tag found → found.elsePos.isSome ≠ withElse := by
        intro tag found hclosed
        rw [loop?_of_conditional (conditional?_eq_some_iff.2 ⟨tag, found, hclosed, rfl, rfl⟩)] at hl
        cases hl
      have hloop : resolveConditionals withElse holds (c :: cs)
          = (c :: cs).take width ++ resolveConditionals withElse holds (cs.drop (width - 1)) := by
        rw [resolveConditionals_block hread, hdrop]
        rfl
      have hsplit : c :: cs = (c :: cs).take width ++ cs.drop (width - 1) := by rw [← hdrop, List.take_append_drop]
      rw [passed_iff, hstep, hdrop, ← ih, and_iff_right hhead, hloop]
      conv_lhs => rhs; rw [hsplit]
      exact List.append_right_inj _
    · obtain ⟨tag, found, hclosed, rfl, -⟩ := conditional?_eq_some_iff.1 hc
      have hown : found.elsePos.isSome = withElse := by simpa [conditionalOf] using helse
      exact iff_of_false (resolveConditionals_ne_of_head hclosed hown) fun h => h 0 .head tag found hclosed hown

/-- Where the search of a text comes to the tag of a conditional, the tag is not closed. -/
def Settled (t : Text) : Prop := ∀ p, Searched t p → ∀ tag, openTagOf? .conditional (t.drop p) = some tag →
  conditionalMarkers.matchFrom t p = none

/-- The match of a tag, counted from its place. -/
theorem matchFrom_drop {p : Nat} {tag : OpenTag} (h : openTagOf? .conditional (t.drop p) = some tag) :
    conditionalMarkers.matchFrom t p = (conditionalMarkers.matchFrom (t.drop p) 0).map (·.shift p) := by
  have hp : p ≤ t.length := by
    by_contra hlt
    rw [List.drop_eq_nil_of_le (by omega)] at h
    cases h
  have hshift := Markers.matchFrom_shift conditionalMarkers (t.take p) (t.drop p)
  rwa [List.take_append_drop, List.length_take_of_le hp] at hshift

theorem settled_iff : Settled t ↔ ∀ withElse, Passed withElse t := by
  constructor
  · intro h withElse p hp tag found hclosed
    have hnone := h p hp tag hclosed.opening
    rw [matchFrom_drop hclosed.opening, Option.map_eq_none_iff] at hnone
    rw [show conditionalMarkers.matchFrom (t.drop p) 0 = some found from hclosed.matched] at hnone
    cases hnone
  · intro h p hp tag htag
    rw [matchFrom_drop htag, Option.map_eq_none_iff, Option.eq_none_iff_forall_ne_some]
    exact fun found hfound => h found.elsePos.isSome p hp tag found ⟨htag, hfound⟩ rfl

/-- The texts that a round leaves as they are. -/
theorem resolveRound_eq_self_iff : resolveRound first holds t = t ↔ Settled t := by
  simp only [resolveRound_eq_iff, resolveConditionals_eq_self_iff, settled_iff]

/-- **Turns over conditionals only delete, and they settle.** Over any text, in any scope, a turn comes to an end, with
what `resolveConditionals` makes of the text; that is the text with some characters deleted. Each conditional that
collapses takes sixteen characters or more with it. Rounds of both turns change the text at most once for every sixteen
characters that it has, and where a round does not change it, no tag of a conditional that a search comes to is
closed. -/
theorem conditionals_settle (s : Scope) (t : Text) :
    (∀ withElse, ∃ n last, (Sweep.start t).Runs withElse s.holds n last ∧
      last.text = resolveConditionals withElse s.holds t ∧ last.text.Sublist t ∧
      last.text.length + 16 * last.collapsed ≤ t.length ∧ 9 * n ≤ t.length) ∧
    (∀ withElse (a b : Sweep), a.step withElse s.holds = some b →
      b.text = a.text ∧ b.collapsed = a.collapsed ∨
        b.text.Sublist a.text ∧ b.text.length + 16 ≤ a.text.length ∧ b.collapsed = a.collapsed + 1) ∧
    ∀ first k,
      ((resolveRound first s.holds)^[k + 1] t ≠ (resolveRound first s.holds)^[k] t → k < t.length / 16) ∧
      ((resolveRound first s.holds)^[k + 1] t = (resolveRound first s.holds)^[k] t ↔
        Settled ((resolveRound first s.holds)^[k] t)) := by
  refine ⟨fun withElse => ?_, fun withElse a b hstep => ?_, fun first k => ⟨lt_of_iterate_ne, ?_⟩⟩
  · obtain ⟨n, last, hruns⟩ := Sweep.exists_runs withElse s.holds (.start t)
    exact ⟨n, last, hruns, hruns.text_eq, hruns.sublist, hruns.collapsed_le.1, hruns.steps_le⟩
  · have hadvances := advances_of_step hstep
    exact hadvances.collapsed_or.imp_right fun h => ⟨hadvances.sublist, h⟩
  · rw [Function.iterate_succ_apply']
    exact resolveRound_eq_self_iff

end Stencil
