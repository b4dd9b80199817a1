import Stencil.Proofs.Directive.Congruence
import Stencil.Proofs.Directive.Faults
import Stencil.Proofs.Directive.OnTrees
import Stencil.Proofs.Markup.Closed
import Stencil.Proofs.Value.Shape

/-!
# How deep a resolution descends

* A resolution **terminates** (`Terminates`) if some number of levels is enough for it. More levels than are enough do
  not change the outcome (`runPasses_mono`).
* A written template terminates with any budget (`terminates_print`): levels are taken by nested loops, and no loop is
  left after a pass.
* Any text terminates with a budget of one pass (`terminates_one`): there a loop body is shorter than the text that it
  stands in.
-/

namespace Stencil

open Resolve (Avoids)
open Text (Recogniser pieces)

/-- Some number of levels is enough for the resolution of a text. -/
def Terminates (budget : Nat) (t : Text) (vars : Fields) : Prop :=
  ∃ depth, ∀ ledger, (runPasses budget depth (.outer vars) t).run .empty ≠ .error .tooDeep ledger

/-! ## More levels -/

section Levels

variable {α β : Type}

/-- The second resolution has the outcome of the first, unless the first one runs out of levels. -/
def Deepens (x y : Resolve α) : Prop := ∀ l, y.run l = x.run l ∨ ∃ l', x.run l = .error .tooDeep l'

theorem Deepens.refl (x : Resolve α) : Deepens x x := fun _ => .inl rfl

theorem Deepens.trans {x y z : Resolve α} (hxy : Deepens x y) (hyz : Deepens y z) : Deepens x z := by
  intro l
  rcases hxy l with h | h
  · rcases hyz l with h' | h'
    · exact .inl (h'.trans h)
    · exact .inr (h ▸ h')
  · exact .inr h

theorem Deepens.bind {x y : Resolve α} {f g : α → Resolve β} (hx : Deepens x y) (hf : ∀ a, Deepens (f a) (g a)) :
    Deepens (x >>= f) (y >>= g) := by
  intro l
  rw [EStateM.run_bind, EStateM.run_bind]
  rcases hx l with h | ⟨l', h⟩
  · rw [h]
    cases x.run l with
    | ok a l' => exact hf a l'
    | error fault l' => exact .inl rfl
  · rw [h]
    exact .inr ⟨l', rfl⟩

theorem congruence_deepens : Resolve.Congruence @Deepens where
  pure _ := .refl _
  bind := .bind
  noteExhausted := .refl _

theorem deepens_succ (budget : Nat) : ∀ (depth : Nat) (s : Scope) (t : Text),
    Deepens (runPasses budget depth s t) (runPasses budget (depth + 1) s t)
  | 0, _, _ => fun l => .inr ⟨l, rfl⟩
  | depth + 1, s, t => by
    refine congruence_deepens.settle (congruence_deepens.onePass rfl fun l => ?_) budget t
    refine congruence_deepens.expandLoop (optionRel_refl (fun items => List.forall₂_same.2 ?_) _)
    exact fun item _ index => congruence_deepens.expandElement (deepens_succ budget depth _ _) fun _ => .refl _

/-- More levels than are enough do not change the outcome. -/
theorem runPasses_mono {budget depth depth' : Nat} (hle : depth ≤ depth') (s : Scope) (t : Text) :
    Deepens (runPasses budget depth s t) (runPasses budget depth' s t) := by
  induction hle with
  | refl => exact .refl _
  | step _ ih => exact ih.trans (deepens_succ budget _ s t)

end Levels

/-! ## Templates -/

/-- Templates whose texts hold no opening brace terminate. -/
theorem terminates_print {m : Markup} (hm : m.Formed Text.BraceFree) {budget : Nat} (hb : 0 < budget) (vars : Fields) :
    Terminates budget m.print vars := by
  have havoids : (Markup.resolve budget (m.loopDepth + 1) (.outer vars) m).Avoids (· = .tooDeep) :=
    Markup.avoids_resolve_of_value (fun _ h => by cases h) hb (Nat.lt_succ_self _) vars
  refine ⟨m.loopDepth + 1, fun ledger hrun => ?_⟩
  rw [Markup.runPasses_print budget _ _ _ hm] at hrun
  exact (havoids.map Markup.print) .empty .tooDeep ledger hrun rfl

/-! ## Lengths -/

namespace Text

variable {α : Type} {read : Recogniser α}

/-- An item of a text is read somewhere in it. -/
theorem mem_pieces {a : α} : ∀ {t : Text}, .item a ∈ pieces read t →
    ∃ u v width, t = u ++ v ∧ read v = some (a, width) := by
  intro t
  induction t using pieces_induction read with
  | nil => exact fun h => by cases h
  | char c cs hread ih =>
    intro h
    rw [pieces_of_none hread] at h
    obtain ⟨u, v, width, rfl, hv⟩ := ih (by simpa using h)
    exact ⟨c :: u, v, width, rfl, hv⟩
  | item c cs b width hread ih =>
    intro h
    rw [pieces_of_some hread] at h
    rcases List.mem_cons.1 h with h | h
    · cases h
      exact ⟨[], c :: cs, width, rfl, hread⟩
    · obtain ⟨u, v, width', huv, hv⟩ := ih h
      refine ⟨c :: (cs.take (width - 1) ++ u), v, width', ?_, hv⟩
      rw [List.cons_append, List.append_assoc, ← huv, List.take_append_drop]

theorem replace_of_none {write : α → Text} {c : Point} {cs : Text} (h : read (c :: cs) = none) :
    replace read write (c :: cs) = c :: replace read write cs := by
  rw [replace, pieces_of_none h]
  rfl

theorem replace_of_some {write : α → Text} {c : Point} {cs : Text} {a : α} {width : Nat}
    (h : read (c :: cs) = some (a, width)) :
    replace read write (c :: cs) = write a ++ replace read write (cs.drop (width - 1)) := by
  rw [replace, pieces_of_some h]
  rfl

/-- What is written for items that are as long does not make a text longer. -/
theorem length_replace_le {write : α → Text}
    (h : ∀ t a width, read t = some (a, width) → (write a).length ≤ width ∧ (write a).length ≤ t.length) (t : Text) :
    (replace read write t).length ≤ t.length := by
  induction t using pieces_induction read with
  | nil => exact Nat.le_refl _
  | char c cs hread ih =>
    rw [replace_of_none hread, List.length_cons, List.length_cons]
    omega
  | item c cs a width hread ih =>
    obtain ⟨hwidth, hlen⟩ := h _ a width hread
    have hdrop : (cs.drop (width - 1)).length = cs.length - (width - 1) := List.length_drop
    rw [replace_of_some hread, List.length_append]
    rw [List.length_cons] at hlen ⊢
    omega

end Text

/-! ## Shorter bodies -/

theorem length_slice (t : Text) (first last : Nat) : (t.slice first last).length ≤ min last t.length := by
  rw [Text.slice, List.length_drop, List.length_take]
  omega

/-- A loop is longer than its body. -/
theorem length_body_lt {t : Text} {l : Loop} {width : Nat} (h : loop? t = some (l, width)) :
    l.body.length < t.length := by
  obtain ⟨tag, found, hclosed, rfl, -⟩ := loop?_eq_some_iff.1 h
  have hslice := length_slice t tag.width found.closePos
  have hclose := (Markers.matchFrom_found hclosed.matched).1
  simp only [loopOf]
  omega

/-- A conditional is at least as long as its branches. -/
theorem length_branch_le {t : Text} {c : Conditional} {width : Nat} (h : conditional? t = some (c, width)) (b : Bool) :
    (c.branch b).length ≤ width ∧ (c.branch b).length ≤ t.length := by
  obtain ⟨tag, found, hclosed, rfl, rfl⟩ := conditional?_eq_some_iff.1 h
  have hslice : ∀ first last, last ≤ found.closePos →
      (t.slice first last).length ≤ found.closePos + conditionalMarkers.closing.length ∧
      (t.slice first last).length ≤ t.length := fun first last hlast => by
    have := length_slice t first last
    omega
  cases b with
  | true => exact hslice _ _ hclosed.elsePos_getD_le
  | false =>
    cases hpos : found.elsePos with
    | none => simp [Conditional.branch, conditionalOf, hpos]
    | some pos =>
      simp only [Conditional.branch, conditionalOf, hpos, Bool.false_eq_true, if_false, Option.map_some,
        Option.getD_some]
      exact hslice _ _ (Nat.le_refl _)

theorem length_resolveConditionals_le (w : Bool) (holds : Text → Bool) (t : Text) :
    (resolveConditionals w holds t).length ≤ t.length := by
  refine Text.length_replace_le (fun t b width h => ?_) t
  rcases block?_eq_some_iff.1 h with ⟨rfl, -⟩ | ⟨c, rfl, -, hc⟩
  · simp only [Block.resolve, List.length_take]
    omega
  · exact length_branch_le hc _

/-! ## A single pass -/

section SinglePass

variable {bad : Fault → Prop}

theorem avoids_writeM {α : Type} {write : α → Resolve Text} : ∀ ps : List (Piece α),
    (∀ a, .item a ∈ ps → (write a).Avoids bad) → (Text.writeM write ps).Avoids bad
  | [], _ => .pure _
  | .char c :: ps, h =>
    (avoids_writeM ps fun a ha => h a (by simp [ha])).bind (.true _) fun _ _ => .pure _
  | .item a :: ps, h =>
    (h a (by simp)).bind (.true _) fun _ _ =>
      (avoids_writeM ps fun b hb => h b (by simp [hb])).bind (.true _) fun _ _ => .pure _

variable (hold : ∀ v, (Resolve.holdValue v).Avoids bad)

include hold

theorem avoids_fillPlaceholder (scope : Scope) (frame : Frame) (p : Placeholder) :
    (fillPlaceholder scope frame p).Avoids bad := by
  unfold fillPlaceholder
  split
  · exact .pure _
  · split
    · exact .pure _
    · split
      · exact hold _
      · split
        · exact hold _
        · exact .pure _

theorem avoids_expandElements {resolve : Scope → Text → Resolve Text} {body : Text}
    (h : ∀ s, (resolve s body).Avoids bad) (scope : Scope) : ∀ (index : Nat) (items : List Value),
    (expandElements resolve scope body index items).Avoids bad
  | _, [] => .pure _
  | index, item :: items => by
    refine Avoids.bind ?_ (.true _) fun _ _ =>
      (avoids_expandElements h scope (index + 1) items).bind (.true _) fun _ _ => .pure _
    exact (h _).bind (.true _) fun _ _ => avoids_writeM _ fun _ _ => avoids_fillPlaceholder hold _ _ _

theorem avoids_onePass {resolve : Scope → Text → Resolve Text} {t : Text}
    (h : ∀ s body, body.length < t.length → (resolve s body).Avoids bad) (scope : Scope) :
    (onePass resolve scope t).Avoids bad := by
  refine avoids_writeM _ fun l hl => ?_
  obtain ⟨u, v, width, hsplit, hread⟩ := Text.mem_pieces hl
  have hlen := length_body_lt hread
  have hfirst := length_resolveConditionals_le true scope.holds t
  have hsecond := length_resolveConditionals_le false scope.holds (resolveConditionals true scope.holds t)
  rw [hsplit, List.length_append] at hsecond
  unfold expandLoop
  split
  · exact avoids_expandElements hold (fun s => h s l.body (by omega)) scope 0 _
  · exact .pure _

end SinglePass

theorem avoids_tooDeep_one : ∀ (depth : Nat) (s : Scope) (t : Text), t.length < depth →
    (runPasses 1 depth s t).Avoids (· = .tooDeep)
  | 0, _, _, h => absurd h (Nat.not_lt_zero _)
  | depth + 1, s, t, h => by
    have hold : ∀ v, (Resolve.holdValue v).Avoids (· = .tooDeep) := fun v =>
      Resolve.avoids_holdValue fun _ _ h => by cases h
    have hpass : (onePass (runPasses 1 depth) s t).Avoids (· = .tooDeep) :=
      avoids_onePass hold (fun s' body hbody => avoids_tooDeep_one depth s' body (by omega)) s
    refine hpass.bind (.true _) fun t' _ => ?_
    split
    · exact .pure _
    · exact fun _ _ _ hrun => by cases hrun

/-- Any text terminates with a budget of one pass. -/
theorem terminates_one (t : Text) (vars : Fields) : Terminates 1 t vars :=
  ⟨t.length + 1, fun ledger hrun => avoids_tooDeep_one _ _ t (Nat.lt_succ_self _) .empty .tooDeep ledger hrun rfl⟩

end Stencil
