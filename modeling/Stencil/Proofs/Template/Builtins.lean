import Stencil.Proofs.Template.Filling
import Stencil.Template.Builtin

/-!
# Documents of the built-in templates

* **Regular templates** (`Markup.Regular`) are well-formed and spaced, have no conditional inside another one of the
  same loop body, and hold few texts. The built-in templates (`Builtin.trees`) are regular, and their defaults short.
* A document of a built-in template is the evaluation of its tree with the tokens in shown values replaced
  (`Engine.evalWith_of_render`). Where no shown value holds a token, a tree that evaluates is rendered to its evaluation
  (`Engine.render_of_eval`).
-/

namespace Stencil

namespace Markup

/-- Whether a tree is well-formed. -/
def isWellFormed : Markup → Bool
  | done => true
  | text t rest => t.all (!isMarkupChar ·) && rest.isWellFormed
  | place n rest => decide (IsName n) && n != elseName && rest.isWellFormed
  | when n yes rest => decide (IsName n) && yes.isWellFormed && rest.isWellFormed
  | choice n yes no rest => decide (IsName n) && yes.isWellFormed && no.isWellFormed && rest.isWellFormed
  | each n body rest => decide (IsName n) && body.isWellFormed && rest.isWellFormed

theorem isWellFormed_iff (m : Markup) : m.isWellFormed = true ↔ m.WellFormed := by
  induction m with
  | done => exact ⟨fun _ => trivial, fun _ => rfl⟩
  | text t rest ih => simp [isWellFormed, WellFormed, ih]
  | place n rest ih => simp [isWellFormed, WellFormed, ih, and_assoc]
  | when n yes rest ihy ih => simp [isWellFormed, WellFormed, ihy, ih, and_assoc]
  | choice n yes no rest ihy ihn ih => simp [isWellFormed, WellFormed, ihy, ihn, ih, and_assoc]
  | each n body rest ihb ih => simp [isWellFormed, WellFormed, ihb, ih, and_assoc]

instance (m : Markup) : Decidable m.WellFormed := decidable_of_iff _ m.isWellFormed_iff

/-- The template is filled in one pass, no token reaches from a shown value into what follows, and there are tokens for
all texts that are held. -/
structure Regular (m : Markup) : Prop where
  wellFormed : m.WellFormed
  spaced : m.spaced true = true
  depth : m.depth ≤ 1
  few : m.holdBound Value.wordBound ≤ digitBound

namespace Regular

variable {m : Markup} (h : m.Regular)

include h

theorem passes (budget : PassBudget) : max 1 m.depth ≤ budget.val :=
  Nat.max_le.2 ⟨budget.property, Nat.le_trans h.depth budget.property⟩

theorem loopsUnder : m.LoopsUnder 1 1 1 1 :=
  loopsUnder_of_depth h.depth ((depth_le_iff m).1 h.depth).1 ((depth_le_iff m).1 h.depth).1

end Regular

theorem le_digitBound {n : Nat} (h : n ≤ Nat.pow 10 40) : n ≤ digitBound := by
  have hpow : ∀ k, 40 ≤ k → Nat.pow 10 40 ≤ Nat.pow 10 k := fun _ => Nat.pow_le_pow_right (by decide)
  unfold digitBound
  exact Nat.le_trans h (hpow digitLimit (by decide))

end Markup

namespace Builtin

open Markup

variable {t : Template} {n : Text} {v : Value} {k : Nat}

/-- The built-in templates with their trees. -/
def trees : List (Template × Markup) :=
  [(apiDoc, apiDocTree), (setupInstructions, setupTree), (architectureNotes, architectureTree)]

theorem body_of_mem_trees {m : Markup} (h : (t, m) ∈ trees) : t ∈ templates ∧ t.body = m.print := by
  simp only [trees, List.mem_cons, Prod.mk.injEq, List.not_mem_nil, or_false] at h
  rcases h with ⟨rfl, rfl⟩ | ⟨rfl, rfl⟩ | ⟨rfl, rfl⟩
  · exact ⟨by simp [templates], rfl⟩
  · exact ⟨by simp [templates], rfl⟩
  · exact ⟨by simp [templates], rfl⟩

theorem regular_apiDocTree : apiDocTree.Regular :=
  ⟨by decide +kernel, by decide +kernel, by decide +kernel, le_digitBound (by decide +kernel)⟩

theorem regular_setupTree : setupTree.Regular :=
  ⟨by decide +kernel, by decide +kernel, by decide +kernel, le_digitBound (by decide +kernel)⟩

theorem regular_architectureTree : architectureTree.Regular :=
  ⟨by decide +kernel, by decide +kernel, by decide +kernel, le_digitBound (by decide +kernel)⟩

theorem regular_of_mem_trees {m : Markup} (h : (t, m) ∈ trees) : m.Regular := by
  simp only [trees, List.mem_cons, Prod.mk.injEq, List.not_mem_nil, or_false] at h
  rcases h with ⟨-, rfl⟩ | ⟨-, rfl⟩ | ⟨-, rfl⟩
  · exact regular_apiDocTree
  · exact regular_setupTree
  · exact regular_architectureTree

/-- Defaults are texts, empty lists and null, so no part of them is a long sequence. -/
theorem sized_default (ht : t ∈ templates) (h : t.default? n = some v) : v.Sized k := by
  have htext : ∀ u, (Value.str u).Sized k := fun _ => Value.sized_of_no_parts rfl rfl
  have hnull : Value.null.Sized k := Value.sized_of_no_parts rfl rfl
  have hlist : (Value.list []).Sized k := Value.sized_list (Nat.zero_le k) nofun
  have hall : ∀ w ∈ [Value.str "API".text, .null, .list [], .null, .list [], .null, .null, .null, .list [], .list []],
      w.Sized k := by
    simp only [List.forall_mem_cons]
    exact ⟨htext _, hnull, hlist, hnull, hlist, hnull, hnull, hnull, hlist, hlist, List.forall_mem_nil _⟩
  obtain ⟨d, hd, hv⟩ := List.exists_of_findSome?_eq_some h
  have hdefault : v = d.default := by
    split at hv
    · split at hv
      · cases hv
      · exact (Option.some.inj hv).symm
    · cases hv
  have hmem : v ∈ (templates.flatMap (·.declared)).map (·.default) :=
    hdefault ▸ List.mem_map_of_mem (List.mem_flatMap.2 ⟨t, ht, List.mem_reverse.1 hd⟩)
  exact hall v hmem

/-- If the values that a template is given are short, those that it is rendered with are. -/
theorem sized_update (ht : t ∈ templates) {vars : Fields} (h : ∀ name v, vars.last? name = some v → v.Sized k)
    (name : Text) (v : Value) (hv : (t.defaults.update vars).get? name = some v) : v.Sized k := by
  rw [Fields.get?_update, Template.get?_defaults] at hv
  rcases Option.or_eq_some_iff.1 hv with hv | ⟨-, hv⟩
  · exact h name v hv
  · exact sized_default ht hv

end Builtin

namespace Engine

open Builtin Markup

/-! ## Documents -/

section Documents

variable {t : Template} {m : Markup} {e : Engine} {context : Context} {document : Text} (ht : (t, m) ∈ trees)
  (hget : e.registry.get? t.name = some t) (hcustom : e.registry.getCustom? t.name = none)

include ht hget hcustom

/-- Without a customization, a built-in template is rendered with the given variables over its defaults. -/
theorem render_eq_ok_iff (hpresent : missing t (t.defaults.update context.vars) = []) :
    e.render t.name context = .ok document ↔ ∃ ledger,
      (fillBody e.passes.val m.print (t.defaults.update context.vars) context.metadata).run .empty
        = .ok document ledger := by
  have hvars : e.effectiveVariables t context.vars = t.defaults.update context.vars := by
    rw [effectiveVariables, hcustom]
  rw [render_eq hget (hvars ▸ hpresent), hvars, (body_of_mem_trees ht).2]
  cases (fillBody e.passes.val m.print (t.defaults.update context.vars) context.metadata).run .empty with
  | error fault ledger => simp
  | ok filled ledger => simp

/-- **Every document of a built-in template** is an evaluation with the tokens in the shown values replaced. -/
theorem evalWith_of_render (hcounted : ∀ name v, context.vars.last? name = some v → v.Counted)
    (h : e.render t.name context = .ok document) :
    ∃ slots, m.evalWith (restoredText slots (t.defaults.update context.vars) context.metadata)
      (.outer (t.defaults.update context.vars)) = .ok document := by
  have hregular : m.Regular := regular_of_mem_trees ht
  have hpresent : missing t (t.defaults.update context.vars) = [] := by
    have hvars : e.effectiveVariables t context.vars = t.defaults.update context.vars := by
      rw [effectiveVariables, hcustom]
    by_contra habsent
    simp [render, attempt, hget, hvars, habsent] at h
  obtain ⟨ledger, hrun⟩ := (render_eq_ok_iff ht hget hcustom hpresent).1 h
  exact ⟨ledger.slots, evalWith_of_run_fillBody hregular.wellFormed hregular.spaced (hregular.passes e.passes)
    (sized_update (body_of_mem_trees ht).1 hcounted) hrun⟩

/-- **A built-in template that evaluates** is rendered to its evaluation, where no value that is shown holds a token and
no sequence has more elements than a word counts. -/
theorem render_of_eval (hpresent : missing t (t.defaults.update context.vars) = [])
    (hsized : ∀ name v, context.vars.last? name = some v → v.Sized Value.wordBound)
    (hshown : ∀ n ∈ m.left (.outer (t.defaults.update context.vars)), ∀ u,
      outsideText (t.defaults.update context.vars) context.metadata n = .ok u → Slots.Untokened u)
    (heval : m.eval context.metadata (.outer (t.defaults.update context.vars)) = .ok document) :
    e.render t.name context = .ok document := by
  have hregular : m.Regular := regular_of_mem_trees ht
  exact (render_eq_ok_iff ht hget hcustom hpresent).2 (run_fillBody_of_eval hregular.wellFormed hregular.spaced
    (hregular.passes e.passes) ⟨Nat.le_refl 1, Nat.le_refl 1⟩ hregular.loopsUnder (show 0 < Value.wordBound by decide)
    (le_digitBound (by decide +kernel)) hregular.few (sized_update (body_of_mem_trees ht).1 hsized) hshown heval)

end Documents

end Engine

end Stencil
