import Stencil.Proofs.Directive.Descent
import Stencil.Proofs.Markup.Closed
import Stencil.Proofs.Slots.Tokens

/-!
# Text around directives

* Plain text around a text stays what it is when closed tags are replaced, whatever the text is (`replace_surround`,
  `replaceM_surround`): no tag starts in the text before it, and none ends in the text after it.
* Hence a turn over conditionals, a pass and any number of passes keep the frame and resolve what is in it
  (`runPasses_surround`). A text settles in its frame exactly if it settles.
* So does a whole resolution (`resolveDirectives_framed`). The longer text has the larger depth allowance, so that the
  outcome in the frame is that of the text where the text has one.
-/

namespace Stencil

open Markup (Plain)
open Text (Braced BraceFree Ended)

theorem Markup.Plain.not_mem {t : Text} (h : Plain t) {c : Point} (hc : Markup.isMarkupChar c = true) : c ∉ t := by
  intro hmem
  rw [h c hmem] at hc
  cases hc

/-- A text with one before it and one after it. -/
def surround (p s t : Text) : Text := p ++ (t ++ s)

theorem surround_injective {p s t u : Text} (h : surround p s t = surround p s u) : t = u :=
  List.append_cancel_right (List.append_cancel_left h)

theorem length_le_surround (p s t : Text) : t.length ≤ (surround p s t).length := by
  simp only [surround, List.length_append]
  omega

section Framing

variable {α : Type} {p s : Text} (hp : Plain p) (hs : Plain s)

include hp hs

/-! ## Closed tags -/

section Readers

variable {read : Text.Recogniser α} (hbraced : Braced read) (hended : Ended read '}')

include hbraced hended

theorem replace_surround (write : α → Text) (t : Text) :
    Text.replace read write (surround p s t) = surround p s (Text.replace read write t) := by
  have hchars : ∀ {u : Text}, Plain u → Text.replace read write u = u := fun hu =>
    Text.replace_of_chars (hbraced.pieces_eq hu.braceFree)
  have hbefore : Text.Parts read p (t ++ s) := hbraced.parts hp.braceFree (t ++ s)
  have hafter : Text.Parts read t s := hended.parts t (hs.not_mem rfl)
  rw [surround, hended.replace_append write hbefore, hended.replace_append write hafter, hchars hp, hchars hs]
  rfl

theorem replaceM_surround (write : α → Resolve Text) (t : Text) :
    Text.replaceM read write (surround p s t) = surround p s <$> Text.replaceM read write t := by
  have hchars : ∀ {u : Text}, Plain u → Text.replaceM read write u = pure u := fun hu =>
    Text.replaceM_of_chars (hbraced.pieces_eq hu.braceFree)
  have hbefore : Text.Parts read p (t ++ s) := hbraced.parts hp.braceFree (t ++ s)
  have hafter : Text.Parts read t s := hended.parts t (hs.not_mem rfl)
  rw [surround, hended.replaceM_append write hbefore, hended.replaceM_append write hafter, hchars hp, hchars hs]
  simp
  rfl

end Readers

/-! ## Passes -/

theorem resolveConditionals_surround (withElse : Bool) (holds : Text → Bool) (t : Text) :
    resolveConditionals withElse holds (surround p s t) = surround p s (resolveConditionals withElse holds t) :=
  replace_surround hp hs (Markup.braced_block? withElse) (ended_block? withElse) _ t

theorem onePass_surround (resolve : Scope → Text → Resolve Text) (scope : Scope) (t : Text) :
    onePass resolve scope (surround p s t) = surround p s <$> onePass resolve scope t := by
  simp only [onePass, resolveConditionals_surround hp hs]
  exact replaceM_surround hp hs braced_loop? ended_loop? _ _

omit hp hs in
/-- Steps that keep a frame settle what is in it. -/
theorem settle_surround {step : Text → Resolve Text} (hstep : ∀ t, step (surround p s t) = surround p s <$> step t) :
    ∀ (budget : Nat) (t : Text), settle step budget (surround p s t) = surround p s <$> settle step budget t
  | 0, t => by simp [settle]
  | budget + 1, t => by
    have hsettled : ∀ u, (if surround p s u = surround p s t then pure (surround p s u) else
        settle step budget (surround p s u)) = surround p s <$> if u = t then pure u else settle step budget u := by
      intro u
      by_cases hut : u = t
      · simp [hut]
      · rw [if_neg (fun h => hut (surround_injective h)), if_neg hut, settle_surround hstep budget u]
    simp only [settle, hstep, map_eq_pure_bind, bind_assoc, pure_bind, hsettled]

/-- **Passes in a frame** leave what the passes over the text leave, in the frame, at every depth. -/
theorem runPasses_surround (budget depth : Nat) (scope : Scope) (t : Text) :
    runPasses budget depth scope (surround p s t) = surround p s <$> runPasses budget depth scope t := by
  cases depth with
  | zero => rfl
  | succ depth => exact settle_surround (onePass_surround hp hs _ scope) budget t

/-- A resolution that succeeds succeeds in a frame, and leaves the same ledger. -/
theorem run_surround {budget : Nat} {t : Text} {vars : Fields} {l l' : Ledger} {r : Text}
    (h : (resolveDirectives budget t vars).run l = .ok r l') :
    (resolveDirectives budget (surround p s t) vars).run l = .ok (surround p s r) l' := by
  have hdepth : depthAllowance t ≤ depthAllowance (surround p s t) :=
    Nat.add_le_add_right (length_le_surround p s t) 200
  have hdeep : (runPasses budget (depthAllowance (surround p s t)) (.outer vars) t).run l = .ok r l' := by
    rcases runPasses_mono hdepth (.outer vars) t l with hsame | ⟨l₁, hfault⟩
    · exact hsame.trans h
    · rw [resolveDirectives, hfault] at h
      cases h
  rw [resolveDirectives, runPasses_surround hp hs, Resolve.run_map, hdeep]

/-! ## Held texts -/

theorem fill_surround (slots : Slots) (t : Text) : slots.fill (surround p s t) = surround p s (slots.fill t) := by
  have hafter : slots.fill (t ++ s) = slots.fill t ++ slots.fill s :=
    ended_slotDigits?.replace_append slots.valueOf (ended_slotDigits?.parts t (hs.not_mem rfl))
  rw [surround, (Slots.unread_of_slotFree (slotFree_of_plain hp) _).fill_append, hafter,
    Slots.fill_slotFree (slotFree_of_plain hs)]
  rfl

theorem overlong?_surround (t : Text) : Slots.overlong? (surround p s t) = Slots.overlong? t := by
  have hchars : Slots.overlong? s = none := Slots.overlong?_slotFree (slotFree_of_plain hs)
  have hparts : Text.Parts slotDigits? t s := ended_slotDigits?.parts t (hs.not_mem rfl)
  rw [surround, (Slots.unread_of_slotFree (slotFree_of_plain hp) _).overlong?_append, Slots.overlong?_eq,
    ended_slotDigits?.pieces_append s t hparts, List.findSome?_append, ← Slots.overlong?_eq, ← Slots.overlong?_eq,
    hchars, Option.or_none]

theorem restore_surround (slots : Slots) (t : Text) :
    slots.restore (surround p s t) = surround p s <$> slots.restore t := by
  cases slots with
  | nil => rfl
  | cons u us =>
    simp only [Slots.restore, List.isEmpty_cons, Bool.false_eq_true, if_false, overlong?_surround hp hs,
      fill_surround hp hs]
    cases Slots.overlong? t <;> rfl

/-! ## Whole resolutions -/

/-- **Text around directives is framed**: where the resolution of a text succeeds, malformed or not, the resolution of
the text with plain text before and after it gives the same result between them, on its own and from any held texts,
and leaves the same ledger. -/
theorem resolveDirectives_framed (budget : PassBudget) (t : Text) (vars : Fields) :
    (∀ r, (resolveDirectives budget.val t vars).alone = .ok r →
      (resolveDirectives budget.val (p ++ (t ++ s)) vars).alone = .ok (p ++ (r ++ s))) ∧
    ∀ l r l', (resolveDirectives budget.val t vars).run l = .ok r l' →
      (resolveDirectives budget.val (p ++ (t ++ s)) vars).run l = .ok (p ++ (r ++ s)) l' := by
  refine ⟨fun r h => ?_, fun l r l' h => run_surround hp hs h⟩
  obtain ⟨u, l, hrun, hrestore⟩ := Resolve.alone_eq_ok_iff.1 h
  refine Resolve.alone_eq_ok_iff.2 ⟨surround p s u, l, run_surround hp hs hrun, ?_⟩
  rw [restore_surround hp hs, hrestore]
  rfl

end Framing

/-- A loop, and a conditional that is never closed. -/
def listThenUnclosed : Text :=
  "\x7b\x7b#each v\x7d\x7d\x7b\x7bthis\x7d\x7d,\x7b\x7b/each\x7d\x7d\x7b\x7b#if v\x7d\x7d".text

/-- Two texts in a list, the first of them with braces. -/
def twoTexts : Fields := [(.str ['v'], .list [.str "\x7b\x7bv".text, .str ['b']])]

theorem listThenUnclosed_framed :
    (resolveDirectives 10 listThenUnclosed twoTexts).alone = .ok "\x7b\x7bv,b,\x7b\x7b#if v\x7d\x7d".text ∧
    (resolveDirectives 10 ("so: ".text ++ (listThenUnclosed ++ " / end".text)) twoTexts).alone
      = .ok ("so: ".text ++ ("\x7b\x7bv,b,\x7b\x7b#if v\x7d\x7d".text ++ " / end".text)) ∧
    (resolveDirectives 10 ("so: ".text ++ (listThenUnclosed ++ " / end".text)) twoTexts).run ⟨[['x']], 0⟩
      = .ok ("so: ".text ++ ((slotToken 1 ++ Point.char ',' :: (slotToken 2 ++ ",\x7b\x7b#if v\x7d\x7d".text))
          ++ " / end".text)) ⟨[['x'], "\x7b\x7bv".text, ['b']], 0⟩ := by
  have hframe := resolveDirectives_framed (p := "so: ".text) (s := " / end".text) (by decide) (by decide)
    defaultPasses listThenUnclosed twoTexts
  exact ⟨rfl, hframe.1 _ rfl, hframe.2 _ _ _ rfl⟩

end Stencil
