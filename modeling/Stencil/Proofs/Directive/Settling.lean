import Stencil.Proofs.Directive.Steps

/-!
# How far passes get

* **One round** (`Markup.round`) takes one level off the conditionals outside all loops (`outerDepth_round`), and a
  loop-free tree whose written form it does not shorten has none (`flat_of_round`).
* **One pass** leaves no loop behind, whatever the budget (`ensures_loopFree_pass`), and on a tree without loops it is
  a round (`pass_of_loopFree`).
* **A budget** of as many passes as conditionals nest outside loops leaves a flat tree (`ensures_flat_resolve`).
-/

namespace Stencil.Markup

open Text (BraceFree)

/-! ## Choosing -/

theorem Bodies.choose {r : Markup → Prop} (w : Bool) (holds : Text → Bool) : ∀ {m : Markup}, m.Bodies r →
    (m.choose w holds).Bodies r
  | done, _ => trivial
  | text _ rest, h => Bodies.choose w holds (m := rest) h
  | place _ rest, h => Bodies.choose w holds (m := rest) h
  | when n yes rest, ⟨hy, hr⟩ => by
    cases w with
    | true => exact ⟨hy.choose true holds, hr.choose true holds⟩
    | false =>
      refine bodies_append.2 ⟨?_, hr.choose false holds⟩
      split
      · exact hy
      · trivial
  | choice n yes no rest, ⟨hy, hno, hr⟩ => by
    cases w with
    | true =>
      refine bodies_append.2 ⟨?_, hr.choose true holds⟩
      split
      · exact hy
      · exact hno
    | false => exact ⟨hy.choose false holds, hno.choose false holds, hr.choose false holds⟩
  | each _ _ _, ⟨hb, hr⟩ => ⟨hb, hr.choose w holds⟩

theorem outerDepth_choose_le (w : Bool) (holds : Text → Bool) : ∀ m : Markup,
    (m.choose w holds).outerDepth ≤ m.outerDepth
  | done => Nat.le_refl _
  | text _ rest => outerDepth_choose_le w holds rest
  | place _ rest => outerDepth_choose_le w holds rest
  | when n yes rest => by
    have hy := outerDepth_choose_le w holds yes
    have hr := outerDepth_choose_le w holds rest
    cases w with
    | true => simp only [choose, outerDepth, if_true]; omega
    | false => cases hh : holds n <;> simp [choose, outerDepth, outerDepth_append, hh] <;> omega
  | choice n yes no rest => by
    have hy := outerDepth_choose_le w holds yes
    have hno := outerDepth_choose_le w holds no
    have hr := outerDepth_choose_le w holds rest
    cases w with
    | true => cases hh : holds n <;> simp [choose, outerDepth, outerDepth_append, hh] <;> omega
    | false => simp only [choose, outerDepth, Bool.false_eq_true, if_false]; omega
  | each _ _ rest => outerDepth_choose_le w holds rest

/-! ## Rounds -/

theorem Bodies.round {r : Markup → Prop} {m : Markup} (hm : m.Bodies r) (holds : Text → Bool) :
    (m.round holds).Bodies r :=
  (hm.choose true holds).choose false holds

theorem LoopFree.round {m : Markup} (hm : m.LoopFree) (holds : Text → Bool) : (m.round holds).LoopFree :=
  loopFree_of_bodies (hm.bodies.round holds)

theorem round_when (holds : Text → Bool) (n : Text) (yes rest : Markup) : (when n yes rest).round holds =
    (if holds n then yes.choose true holds else done) ++ rest.round holds := by
  simp [round, choose]

theorem round_choice (holds : Text → Bool) (n : Text) (yes no rest : Markup) : (choice n yes no rest).round holds =
    (if holds n then yes else no).choose false holds ++ rest.round holds := by
  simp [round, choose, choose_append]

/-- A round takes one level off the conditionals outside all loops. -/
theorem outerDepth_round (holds : Text → Bool) : ∀ m : Markup, (m.round holds).outerDepth ≤ m.outerDepth - 1
  | done => Nat.le_refl _
  | text _ rest => outerDepth_round holds rest
  | place _ rest => outerDepth_round holds rest
  | when n yes rest => by
    have hy := outerDepth_choose_le true holds yes
    have hr := outerDepth_round holds rest
    rw [round_when, outerDepth_append]
    cases holds n <;> simp [outerDepth] <;> omega
  | choice n yes no rest => by
    have hy := outerDepth_choose_le false holds yes
    have hno := outerDepth_choose_le false holds no
    have hr := outerDepth_round holds rest
    rw [round_choice, outerDepth_append]
    cases holds n <;> simp [outerDepth] <;> omega
  | each _ _ rest => outerDepth_round holds rest

theorem length_choose_le (w : Bool) (holds : Text → Bool) : ∀ m : Markup,
    (m.choose w holds).print.length ≤ m.print.length
  | done => Nat.le_refl _
  | text _ rest => by simpa [choose, print] using length_choose_le w holds rest
  | place _ rest => by simpa [choose, print] using length_choose_le w holds rest
  | when n yes rest => by
    have hy := length_choose_le w holds yes
    have hr := length_choose_le w holds rest
    cases w with
    | true => simp only [choose, print, List.length_append, if_true]; omega
    | false => cases hh : holds n <;> simp [choose, print, print_append, hh] <;> omega
  | choice n yes no rest => by
    have hy := length_choose_le w holds yes
    have hno := length_choose_le w holds no
    have hr := length_choose_le w holds rest
    cases w with
    | true => cases hh : holds n <;> simp [choose, print, print_append, hh] <;> omega
    | false => simp only [choose, print, List.length_append, Bool.false_eq_true, if_false]; omega
  | each _ _ rest => by simpa [choose, print] using length_choose_le w holds rest

/-- A tree whose conditionals outside all loops have one branch each. -/
def OneBranch : Markup → Prop
  | done => True
  | text _ rest => rest.OneBranch
  | place _ rest => rest.OneBranch
  | when _ yes rest => yes.OneBranch ∧ rest.OneBranch
  | choice .. => False
  | each _ _ rest => rest.OneBranch

/-- A first turn that does not shorten a tree finds nothing in it. -/
theorem oneBranch_of_choose (holds : Text → Bool) : ∀ {m : Markup},
    m.print.length ≤ (m.choose true holds).print.length → m.OneBranch ∧ m.choose true holds = m
  | done, _ => ⟨trivial, rfl⟩
  | text _ rest, h => by
    obtain ⟨hr, he⟩ := oneBranch_of_choose holds (m := rest) (by simpa [choose, print] using h)
    exact ⟨hr, by rw [choose, he]⟩
  | place _ rest, h => by
    obtain ⟨hr, he⟩ := oneBranch_of_choose holds (m := rest) (by simpa [choose, print] using h)
    exact ⟨hr, by rw [choose, he]⟩
  | when n yes rest, h => by
    have hyl := length_choose_le true holds yes
    have hrl := length_choose_le true holds rest
    simp only [choose, print, List.length_append, if_true] at h
    obtain ⟨hy, hye⟩ := oneBranch_of_choose holds (m := yes) (by omega)
    obtain ⟨hr, hre⟩ := oneBranch_of_choose holds (m := rest) (by omega)
    exact ⟨⟨hy, hr⟩, by simp [choose, hye, hre]⟩
  | choice n yes no rest, h => by
    have hrl := length_choose_le true holds rest
    have hopen : 0 < (openText .conditional n).length := by simp [openText]
    cases hh : holds n <;> simp [choose, print, print_append, hh] at h <;> omega
  | each _ _ rest, h => by
    obtain ⟨hr, he⟩ := oneBranch_of_choose holds (m := rest) (by simpa [choose, print] using h)
    exact ⟨hr, by rw [choose, he]⟩

theorem flat_of_choose (holds : Text → Bool) : ∀ {m : Markup}, m.LoopFree → m.OneBranch →
    m.print.length ≤ (m.choose false holds).print.length → m.Flat
  | done, _, _, _ => trivial
  | text _ rest, hl, hb, h => flat_of_choose holds (m := rest) hl hb (by simpa [choose, print] using h)
  | place _ rest, hl, hb, h => flat_of_choose holds (m := rest) hl hb (by simpa [choose, print] using h)
  | when n yes rest, _, _, h => by
    have hrl := length_choose_le false holds rest
    have hopen : 0 < (openText .conditional n).length := by simp [openText]
    cases hh : holds n <;> simp [choose, print, print_append, hh] at h <;> omega

/-- A round that leaves the written form of a loop-free tree as it is finds no conditionals in it. -/
theorem flat_of_round {m : Markup} (hm : m.LoopFree) {holds : Text → Bool} (h : (m.round holds).print = m.print) :
    m.Flat := by
  have hfirst := length_choose_le false holds (m.choose true holds)
  have hsecond := length_choose_le true holds m
  have hlen := congrArg List.length h
  rw [round] at hlen
  obtain ⟨hone, hsame⟩ := oneBranch_of_choose holds (m := m) (by omega)
  rw [hsame] at hlen
  exact flat_of_choose holds hm hone (by omega)

theorem Flat.choose_eq (w : Bool) (holds : Text → Bool) : ∀ {m : Markup}, m.Flat → m.choose w holds = m
  | done, _ => rfl
  | text _ rest, h => by rw [choose, Flat.choose_eq w holds (m := rest) h]
  | place _ rest, h => by rw [choose, Flat.choose_eq w holds (m := rest) h]

theorem Flat.round_eq {m : Markup} (hm : m.Flat) (holds : Text → Bool) : m.round holds = m := by
  rw [round, hm.choose_eq, hm.choose_eq]

/-! ## Loops -/

theorem expandWith_of_loopFree {M : Type → Type} [Monad M] [LawfulMonad M] (f : Text → Markup → M Markup) :
    ∀ {m : Markup}, m.LoopFree → m.expandWith f = pure m
  | done, _ => rfl
  | text _ rest, h => by simp [expandWith, expandWith_of_loopFree f (m := rest) h]
  | place _ rest, h => by simp [expandWith, expandWith_of_loopFree f (m := rest) h]
  | when _ _ _, ⟨hy, hr⟩ => by simp [expandWith, expandWith_of_loopFree f hy, expandWith_of_loopFree f hr]
  | choice _ _ _ _, ⟨hy, hno, hr⟩ => by
    simp [expandWith, expandWith_of_loopFree f hy, expandWith_of_loopFree f hno, expandWith_of_loopFree f hr]

theorem loopFree_of_expandWith : ∀ {m m' : Markup}, m.expandWith (fun _ _ => none) = some m' → m.LoopFree
  | done, _, _ => trivial
  | text _ rest, _, h => by
    simp only [expandWith, Option.bind_eq_bind, Option.bind_eq_some_iff] at h
    obtain ⟨_, hr, _⟩ := h
    exact loopFree_of_expandWith (m := rest) hr
  | place _ rest, _, h => by
    simp only [expandWith, Option.bind_eq_bind, Option.bind_eq_some_iff] at h
    obtain ⟨_, hr, _⟩ := h
    exact loopFree_of_expandWith (m := rest) hr
  | when _ _ _, _, h => by
    simp only [expandWith, Option.bind_eq_bind, Option.bind_eq_some_iff] at h
    obtain ⟨_, hy, _, hr, _⟩ := h
    exact ⟨loopFree_of_expandWith hy, loopFree_of_expandWith hr⟩
  | choice _ _ _ _, _, h => by
    simp only [expandWith, Option.bind_eq_bind, Option.bind_eq_some_iff] at h
    obtain ⟨_, hy, _, hno, _, hr, _⟩ := h
    exact ⟨loopFree_of_expandWith hy, loopFree_of_expandWith hno, loopFree_of_expandWith hr⟩
  | each _ _ _, _, h => by cases h

/-- The written form of a tree shows whether it has loops. -/
theorem loopFree_of_print {l : Branch} {m m' : Markup} (hm : m.Loose BraceFree l) (hm' : m'.Loose BraceFree l)
    (hl : m'.LoopFree) (h : m'.print = m.print) : m.LoopFree := by
  have hrefuse : ∀ {m : Markup}, m.Loose BraceFree l →
      Text.replaceM loop? (fun _ => none) m.print = print <$> m.expandWith fun _ _ => none :=
    replaceM_loop?_print fun _ _ _ => rfl
  have hprint := hrefuse hm
  rw [← h, hrefuse hm', expandWith_of_loopFree _ hl] at hprint
  obtain ⟨m₁, hm₁, -⟩ := Option.map_eq_some_iff.1 hprint.symm
  exact loopFree_of_expandWith hm₁

/-- On a tree without loops a pass is a round. -/
theorem pass_of_loopFree (onTree : Scope → Markup → Resolve Markup) (scope : Scope) {m : Markup} (hm : m.LoopFree) :
    pass onTree scope m = pure (m.round scope.holds) :=
  expandWith_of_loopFree _ (hm.round scope.holds)

/-! ## Results of passes -/

section Results

open Resolve (Ensures)

/-- A condition on trees that a loop may put together from the trees of its elements. -/
structure Splices (q : Markup → Prop) : Prop where
  done : q done
  append {a b : Markup} : q a → q b → q (a ++ b)
  fill {m : Markup} : q m → ∀ answer : Text → Resolve (Option Text), (m.fillWith answer).Ensures q

theorem ensures_fillWith_loopFree (answer : Text → Resolve (Option Text)) :
    ∀ {m : Markup}, m.LoopFree → (m.fillWith answer).Ensures LoopFree
  | done, _ => .pure trivial
  | text _ rest, h => (ensures_fillWith_loopFree answer (m := rest) h).bind fun _ h' => .pure h'
  | place _ rest, h => (Ensures.true _).bind fun o _ =>
      (ensures_fillWith_loopFree answer (m := rest) h).bind fun _ h' => .pure <| by cases o <;> exact h'
  | when _ _ _, ⟨hy, hr⟩ =>
    (ensures_fillWith_loopFree answer hy).bind fun _ hy' =>
      (ensures_fillWith_loopFree answer hr).bind fun _ hr' => .pure ⟨hy', hr'⟩
  | choice _ _ _ _, ⟨hy, hno, hr⟩ =>
    (ensures_fillWith_loopFree answer hy).bind fun _ hy' => (Ensures.true _).bind fun o _ =>
      (ensures_fillWith_loopFree answer hno).bind fun _ hno' =>
        (ensures_fillWith_loopFree answer hr).bind fun _ hr' => .pure <| by
          cases o with
          | some t => exact ⟨loopFree_append.2 ⟨hy', hno'⟩, hr'⟩
          | none => exact ⟨hy', hno', hr'⟩

theorem ensures_fillWith_flat (answer : Text → Resolve (Option Text)) :
    ∀ {m : Markup}, m.Flat → (m.fillWith answer).Ensures Flat
  | done, _ => .pure trivial
  | text _ rest, h => (ensures_fillWith_flat answer (m := rest) h).bind fun _ h' => .pure h'
  | place _ rest, h => (Ensures.true _).bind fun o _ =>
      (ensures_fillWith_flat answer (m := rest) h).bind fun _ h' => .pure <| by cases o <;> exact h'

theorem splices_loopFree : Splices LoopFree where
  done := trivial
  append ha hb := loopFree_append.2 ⟨ha, hb⟩
  fill h answer := ensures_fillWith_loopFree answer h

theorem splices_flat : Splices Flat where
  done := trivial
  append ha hb := flat_append.2 ⟨ha, hb⟩
  fill h answer := ensures_fillWith_flat answer h

variable {q : Markup → Prop} {onTree : Scope → Markup → Resolve Markup}

theorem ensures_elements (hq : Splices q) {body : Markup} (hk : ∀ s, (onTree s body).Ensures q) (scope : Scope) :
    ∀ (index : Nat) (items : List Value), (resolveElements onTree scope body index items).Ensures q
  | _, [] => .pure hq.done
  | index, _ :: items =>
    Ensures.bind ((hk _).bind fun _ h => hq.fill h _) fun _ h =>
      (ensures_elements hq hk scope (index + 1) items).bind fun _ h' => .pure (hq.append h h')

theorem ensures_loop (hq : Splices q) {body : Markup} (hk : ∀ s, (onTree s body).Ensures q) (scope : Scope) (n : Text) :
    (resolveLoop onTree scope n body).Ensures q := by
  unfold resolveLoop
  split
  · exact ensures_elements hq hk scope 0 _
  · exact .pure hq.done

theorem ensures_settle {step : Markup → Resolve Markup} (h : ∀ m, q m → (step m).Ensures q) :
    ∀ (budget : Nat) {m : Markup}, q m → (settle step budget m).Ensures q
  | 0, _, hm => (Ensures.true _).bind fun _ _ => .pure hm
  | budget + 1, m, hm => by
    refine (h m hm).bind fun m' hm' => ?_
    split
    · exact .pure hm'
    · exact ensures_settle h budget hm'

variable {f : Text → Markup → Resolve Markup} {r : Markup → Prop}

theorem ensures_loopFree_expandWith (hf : ∀ n body, (f n body).Ensures LoopFree) :
    ∀ m : Markup, (m.expandWith f).Ensures LoopFree
  | done => .pure trivial
  | text _ rest => (ensures_loopFree_expandWith hf rest).bind fun _ h => .pure h
  | place _ rest => (ensures_loopFree_expandWith hf rest).bind fun _ h => .pure h
  | when _ yes rest => (ensures_loopFree_expandWith hf yes).bind fun _ hy =>
      (ensures_loopFree_expandWith hf rest).bind fun _ hr => .pure ⟨hy, hr⟩
  | choice _ yes no rest => (ensures_loopFree_expandWith hf yes).bind fun _ hy =>
      (ensures_loopFree_expandWith hf no).bind fun _ hno =>
        (ensures_loopFree_expandWith hf rest).bind fun _ hr => .pure ⟨hy, hno, hr⟩
  | each n body rest => (hf n body).bind fun _ h =>
      (ensures_loopFree_expandWith hf rest).bind fun _ hr => .pure (loopFree_append.2 ⟨h, hr⟩)

theorem ensures_outerDepth_expandWith (hf : ∀ n body, r body → (f n body).Ensures Flat) :
    ∀ m : Markup, m.Bodies r → (m.expandWith f).Ensures fun m' => m'.outerDepth ≤ m.outerDepth
  | done, _ => .pure (Nat.le_refl _)
  | text _ rest, hr => (ensures_outerDepth_expandWith hf rest hr).bind fun _ h => .pure h
  | place _ rest, hr => (ensures_outerDepth_expandWith hf rest hr).bind fun _ h => .pure h
  | when _ yes rest, ⟨hy, hr⟩ => (ensures_outerDepth_expandWith hf yes hy).bind fun _ hy' =>
      (ensures_outerDepth_expandWith hf rest hr).bind fun _ hr' => .pure <| by simp only [outerDepth]; omega
  | choice _ yes no rest, ⟨hy, hno, hr⟩ => (ensures_outerDepth_expandWith hf yes hy).bind fun _ hy' =>
      (ensures_outerDepth_expandWith hf no hno).bind fun _ hno' =>
        (ensures_outerDepth_expandWith hf rest hr).bind fun _ hr' => .pure <| by simp only [outerDepth]; omega
  | each n body rest, ⟨hb, hr⟩ => (hf n body hb).bind fun _ h =>
      (ensures_outerDepth_expandWith hf rest hr).bind fun _ hr' => .pure <| by
        rw [outerDepth_append, h.outerDepth_eq]
        simpa [outerDepth] using hr'

/-- A pass leaves no loops behind. -/
theorem ensures_loopFree_pass (hk : ∀ s m, (onTree s m).Ensures LoopFree) (scope : Scope) (m : Markup) :
    (pass onTree scope m).Ensures LoopFree :=
  ensures_loopFree_expandWith (fun n body => ensures_loop splices_loopFree (fun s => hk s body) scope n) _

/-- A pass takes one level off the conditionals outside all loops, if what it puts in the place of loops has none. -/
theorem ensures_outerDepth_pass (hflat : ∀ s body, r body → (onTree s body).Ensures Flat) (scope : Scope) {m : Markup}
    (hm : m.Bodies r) : (pass onTree scope m).Ensures fun m' => m'.outerDepth ≤ m.outerDepth - 1 := by
  have hexpand : (pass onTree scope m).Ensures fun m' => m'.outerDepth ≤ (m.round scope.holds).outerDepth :=
    ensures_outerDepth_expandWith (fun n body hb => ensures_loop splices_flat (fun s => hflat s body hb) scope n) _
      (hm.round scope.holds)
  exact fun l => (hexpand l).mono fun _ _ h => Nat.le_trans h (outerDepth_round scope.holds m)

theorem ensures_loopFree_resolve {budget : Nat} (hb : 0 < budget) :
    ∀ depth s m, (resolve budget depth s m).Ensures LoopFree
  | 0, _, _ => fun _ _ _ hrun => by cases hrun
  | depth + 1, s, m => by
    obtain ⟨budget, rfl⟩ := Nat.exists_eq_succ_of_ne_zero (Nat.ne_of_gt hb)
    have hpass := ensures_loopFree_pass (ensures_loopFree_resolve hb depth) s
    refine (hpass m).bind fun m' hm' => ?_
    split
    · exact .pure hm'
    · exact ensures_settle (fun m _ => hpass m) budget hm'

/-- Passes over a tree without loops leave a flat tree, if there are as many as conditionals nest in it. -/
theorem ensures_flat_settle (onTree : Scope → Markup → Resolve Markup) (scope : Scope) :
    ∀ (budget : Nat) {m : Markup}, m.LoopFree → m.outerDepth ≤ budget →
      (settle (pass onTree scope) budget m).Ensures Flat
  | 0, _, hm, hd => (Ensures.true _).bind fun _ _ => .pure (flat_of_outerDepth hm (by omega))
  | budget + 1, m, hm, hd => by
    rw [settle, pass_of_loopFree onTree scope hm, pure_bind]
    split
    · rename_i hsame
      have hflat := flat_of_round hm hsame
      exact .pure (by rwa [hflat.round_eq])
    · have := outerDepth_round scope.holds m
      exact ensures_flat_settle onTree scope budget (hm.round scope.holds) (by omega)

/-- **Enough passes.** With a budget of as many passes as conditionals nest outside loops, the tree that is left is
flat. -/
theorem ensures_flat_resolve {budget : Nat} (hb : 0 < budget) : ∀ depth s m, m.Formed BraceFree →
    m.depth ≤ budget → (resolve budget depth s m).Ensures Flat
  | 0, _, _, _, _ => fun _ _ _ hrun => by cases hrun
  | depth + 1, s, m, hm, hd => by
    obtain ⟨budget, rfl⟩ := Nat.exists_eq_succ_of_ne_zero (Nat.ne_of_gt hb)
    obtain ⟨houter, hbody⟩ := (depth_le_iff m).1 hd
    by_cases hl : m.LoopFree
    · exact ensures_flat_settle _ s (budget + 1) hl houter
    have hdepth := ensures_outerDepth_pass (r := fun body => body.Formed BraceFree ∧ body.depth ≤ budget + 1)
      (fun s body ⟨hf, hbd⟩ => ensures_flat_resolve hb depth s body hf hbd) s (hm.bodies.and (bodies_depth hbody))
    have hfree := ensures_loopFree_pass (ensures_loopFree_resolve hb depth) s m
    have hformed : (pass (resolve (budget + 1) depth) s m).Ensures (Formed BraceFree) := fun l =>
      (keepsFormed_pass (p := fun _ => BraceFree) Slots.admits_braceFree
        (keepsFormed_resolve Slots.admits_braceFree _ depth) s m l hm).mono fun _ _ h => h.2
    refine ((hdepth.and hfree).and hformed).bind fun m' ⟨⟨hd', hl'⟩, hf'⟩ => ?_
    split
    · rename_i hsame
      exact absurd (loopFree_of_print (l := .outside) (.formed hm) (.formed hf') hl' hsame) hl
    · exact ensures_flat_settle _ s budget hl' (by omega)

end Results

end Stencil.Markup
