import Mathlib.Logic.Function.Iterate
import Stencil.Proofs.Directive.Budget

/-!
# Partial results

Without loops a pass is a round over the conditionals, and so a resolution is a number of rounds.

* **Choices** (`Markup.chosen`): the tree with every conditional outside all loops decided at once. A turn over the
  conditionals decides some of them and leaves the choices of the others as they are (`chosen_choose`).
* **Rounds** take off one level each and keep the choices. Once no level is left, the tree is the chosen one
  (`rounds_eq_chosen`), and a resolution that stops early has come there (`run_settle_rounds`).
* **A partial result can be resumed** (`resolveDirectives_resumes`): the levels that are left tell how many more passes
  it needs.
-/

namespace Stencil

open Text (BraceFree)

namespace Markup

variable {holds : Text → Bool}

/-! ## Choices -/

/-- The tree with every conditional outside all loops replaced by its branch, at all levels. -/
def chosen (holds : Text → Bool) : Markup → Markup
  | done => done
  | text t rest => text t (rest.chosen holds)
  | place n rest => place n (rest.chosen holds)
  | when n yes rest => (if holds n then yes.chosen holds else done) ++ rest.chosen holds
  | choice n yes no rest => (if holds n then yes.chosen holds else no.chosen holds) ++ rest.chosen holds
  | each n body rest => each n body (rest.chosen holds)

theorem chosen_append (b : Markup) : ∀ a : Markup, (a ++ b).chosen holds = a.chosen holds ++ b.chosen holds
  | done => rfl
  | text t rest => by simp [chosen, chosen_append b rest]
  | place n rest => by simp [chosen, chosen_append b rest]
  | when n yes rest => by simp [chosen, chosen_append b rest, append_assoc]
  | choice n yes no rest => by simp [chosen, chosen_append b rest, append_assoc]
  | each n body rest => by simp [chosen, chosen_append b rest]

/-- What one turn leaves undecided is decided as before. -/
theorem chosen_choose (w : Bool) : ∀ m : Markup, (m.choose w holds).chosen holds = m.chosen holds
  | done => rfl
  | text t rest => by rw [choose, chosen, chosen, chosen_choose w rest]
  | place n rest => by rw [choose, chosen, chosen, chosen_choose w rest]
  | when n yes rest => by
    have hr := chosen_choose w rest
    cases w with
    | true => simp only [choose, chosen, if_true, chosen_choose true yes, hr]
    | false => cases hh : holds n <;> simp [choose, chosen, chosen_append, hh, hr]
  | choice n yes no rest => by
    have hr := chosen_choose w rest
    cases w with
    | true => cases hh : holds n <;> simp [choose, chosen, chosen_append, hh, hr]
    | false => simp [choose, chosen, chosen_choose false yes, chosen_choose false no, hr]
  | each n body rest => by rw [choose, chosen, chosen, chosen_choose w rest]

theorem chosen_round (m : Markup) : (m.round holds).chosen holds = m.chosen holds := by
  rw [round, chosen_choose, chosen_choose]

/-- In a flat tree nothing is left to choose. -/
theorem Flat.chosen_eq : ∀ {m : Markup}, m.Flat → m.chosen holds = m
  | done, _ => rfl
  | text _ rest, h => by rw [chosen, Flat.chosen_eq (m := rest) h]
  | place _ rest, h => by rw [chosen, Flat.chosen_eq (m := rest) h]

theorem LoopFree.bodyDepth_eq : ∀ {m : Markup}, m.LoopFree → m.bodyDepth = 0
  | done, _ => rfl
  | text _ rest, h => LoopFree.bodyDepth_eq (m := rest) h
  | place _ rest, h => LoopFree.bodyDepth_eq (m := rest) h
  | when _ _ _, ⟨hy, hr⟩ => by simp only [bodyDepth, hy.bodyDepth_eq, hr.bodyDepth_eq, Nat.max_self]
  | choice _ _ _ _, ⟨hy, hno, hr⟩ => by
    simp only [bodyDepth, hy.bodyDepth_eq, hno.bodyDepth_eq, hr.bodyDepth_eq, Nat.max_self]

/-- Without loops all nesting is outside of loops. -/
theorem LoopFree.depth_eq {m : Markup} (hm : m.LoopFree) : m.depth = m.outerDepth := by
  refine Nat.le_antisymm ?_ ((depth_le_iff m).1 (Nat.le_refl _)).1
  exact (depth_le_iff m).2 ⟨Nat.le_refl _, by simp only [hm.bodyDepth_eq, Nat.zero_le]⟩

/-! ## Rounds -/

/-- The tree after so many rounds. -/
def rounds (holds : Text → Bool) (k : Nat) (m : Markup) : Markup := (round holds)^[k] m

theorem rounds_succ (k : Nat) (m : Markup) : m.rounds holds (k + 1) = (m.round holds).rounds holds k := rfl

/-- What every round keeps is kept by any number of them. -/
theorem rounds_keep {q : Markup → Prop} (h : ∀ m, q m → q (m.round holds)) : ∀ (k : Nat) {m : Markup}, q m →
    q (m.rounds holds k)
  | 0, _, hm => hm
  | k + 1, m, hm => rounds_keep h k (h m hm)

theorem chosen_rounds (k : Nat) (m : Markup) : (m.rounds holds k).chosen holds = m.chosen holds :=
  rounds_keep (q := fun m' => m'.chosen holds = m.chosen holds) (fun m' h => by rw [chosen_round, h]) k rfl

/-- Each round takes off a level. -/
theorem outerDepth_rounds : ∀ (k : Nat) (m : Markup), (m.rounds holds k).outerDepth ≤ m.outerDepth - k
  | 0, _ => Nat.le_refl _
  | k + 1, m => by
    have hround := outerDepth_round holds m
    have hrest := outerDepth_rounds k (m.round holds)
    rw [rounds_succ]
    omega

/-- After as many rounds as there are levels everything is chosen. -/
theorem rounds_eq_chosen {m : Markup} (hl : m.LoopFree) {k : Nat} (hk : m.outerDepth ≤ k) :
    m.rounds holds k = m.chosen holds := by
  have hnone : (m.rounds holds k).outerDepth = 0 := by
    have hlevels : (m.rounds holds k).outerDepth ≤ m.outerDepth - k := outerDepth_rounds k m
    omega
  have hflat : (m.rounds holds k).Flat := flat_of_outerDepth (rounds_keep (fun _ h => h.round holds) k hl) hnone
  rw [← chosen_rounds k m, hflat.chosen_eq]

/-- More rounds leave a flat tree as it is. -/
theorem Flat.rounds_eq {m : Markup} (hm : m.Flat) (k : Nat) : m.rounds holds k = m :=
  rounds_keep (q := (· = m)) (fun m' h => by rw [h, hm.round_eq]) k rfl

/-- Passes over a tree without loops are rounds. Passes that stop early have come to a flat tree, which the rounds that
were not made would leave as it is. -/
theorem run_settle_rounds (onTree : Scope → Markup → Resolve Markup) (s : Scope) : ∀ (budget : Nat) {m : Markup}
    (l : Ledger), m.LoopFree → ∃ l', (settle (pass onTree s) budget m).run l = .ok (m.rounds s.holds budget) l' ∧
      l'.slots = l.slots
  | 0, _, l, _ => ⟨{ l with exhausted := l.exhausted + 1 }, rfl, rfl⟩
  | budget + 1, m, l, hl => by
    rw [settle, pass_of_loopFree onTree s hl, pure_bind]
    by_cases hsame : (m.round s.holds).print = m.print
    · have hflat : m.Flat := flat_of_round hl hsame
      rw [if_pos hsame, hflat.round_eq, hflat.rounds_eq]
      exact ⟨l, rfl, rfl⟩
    · rw [if_neg hsame, rounds_succ]
      exact run_settle_rounds onTree s budget l (hl.round s.holds)

end Markup

/-! ## Resolutions without loops -/

open Markup

/-- A resolution without loops holds nothing, and its text is that of so many rounds. -/
theorem alone_rounds {m : Markup} (hm : m.WellFormed) (hl : m.LoopFree) (budget : Nat) (vars : Fields) :
    (resolveDirectives budget m.print vars).alone = .ok (m.rounds (Scope.outer vars).holds budget).print := by
  have hallowance : depthAllowance m.print = m.print.length + 199 + 1 := rfl
  obtain ⟨l, hrun, hslots⟩ := run_settle_rounds (resolve budget (m.print.length + 199)) (.outer vars) budget .empty hl
  have hwhole : (resolveDirectives budget m.print vars).run .empty
      = .ok (m.rounds (Scope.outer vars).holds budget).print l := by
    rw [resolveDirectives_print hm.braceFree, hallowance, Resolve.run_map, resolve, hrun]
  have hempty : l.slots = [] := hslots
  simp only [Resolve.alone, hwhole, hempty]
  rfl

/-- **A partial result can be resumed.** Any number of passes over a template without loops leaves a well-formed
template with as many levels of conditionals less; resolving that one with enough passes for its levels gives what
resolving the whole with enough passes gives: the text in which every conditional is decided. -/
theorem resolveDirectives_resumes {m : Markup} (hm : m.WellFormed) (hl : m.LoopFree) (budget : PassBudget)
    (vars : Fields) : ∃ part : Markup, part.WellFormed ∧ part.LoopFree ∧ part.depth ≤ m.depth - budget.val ∧
      (resolveDirectives budget.val m.print vars).alone = .ok part.print ∧
      (∀ again : PassBudget, m.depth - budget.val ≤ again.val →
        (resolveDirectives again.val part.print vars).alone = .ok (m.chosen (Scope.outer vars).holds).print) ∧
      ∀ whole : PassBudget, m.depth ≤ whole.val →
        (resolveDirectives whole.val m.print vars).alone = .ok (m.chosen (Scope.outer vars).holds).print := by
  have hpart : (m.rounds (Scope.outer vars).holds budget.val).WellFormed := (formed_plain_iff _).1 <|
    rounds_keep (fun _ h => h.round _) budget.val ((formed_plain_iff m).2 hm)
  have hfree : (m.rounds (Scope.outer vars).holds budget.val).LoopFree :=
    rounds_keep (fun _ h => h.round _) budget.val hl
  have hlevels : (m.rounds (Scope.outer vars).holds budget.val).outerDepth ≤ m.depth - budget.val := by
    rw [hl.depth_eq]
    exact outerDepth_rounds budget.val m
  refine ⟨m.rounds (Scope.outer vars).holds budget.val, hpart, hfree, ?_, alone_rounds hm hl _ _, ?_, ?_⟩
  · rwa [hfree.depth_eq]
  · intro again hagain
    rw [alone_rounds hpart hfree, rounds_eq_chosen hfree (Nat.le_trans hlevels hagain), chosen_rounds]
  · intro whole hwhole
    rw [alone_rounds hm hl, rounds_eq_chosen hl (hl.depth_eq ▸ hwhole)]

/-- Three levels of conditionals, with one branch and with two. -/
def threeLevels : Markup :=
  onlyIf "a" (lit "x" ++ ifElse "b" (slot "u") (onlyIf "a" (lit "y") ++ slot "v")) ++ ifElse "b" (lit "n") (lit "z")

theorem threeLevels_resumes : threeLevels.depth = 3 ∧
    ∃ part : Markup, part.WellFormed ∧ part.LoopFree ∧ part.depth ≤ 3 - 1 ∧
      (resolveDirectives 1 threeLevels.print [(.str ['a'], .bool true)]).alone = .ok part.print ∧
      (∀ again : PassBudget, 3 - 1 ≤ again.val →
        (resolveDirectives again.val part.print [(.str ['a'], .bool true)]).alone = .ok "xy\x7b\x7bv\x7d\x7dz".text) ∧
      ∀ whole : PassBudget, 3 ≤ whole.val →
        (resolveDirectives whole.val threeLevels.print [(.str ['a'], .bool true)]).alone
          = .ok "xy\x7b\x7bv\x7d\x7dz".text := by
  have hformed : threeLevels.WellFormed := by
    simp [threeLevels, onlyIf, ifElse, lit, slot, WellFormed]
    decide
  have hfree : threeLevels.LoopFree := by simp [threeLevels, onlyIf, ifElse, lit, slot, LoopFree]
  exact ⟨rfl, resolveDirectives_resumes hformed hfree ⟨1, by decide⟩ [(.str ['a'], .bool true)]⟩

end Stencil
