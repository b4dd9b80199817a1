import Stencil.Proofs.Directive.OnTrees
import Stencil.Proofs.Directive.Settling

/-!
# When a result is final

* A result is **final** (`FinalWhenTagFree`) if more passes give the same document. A text with directive tags may
  change with more passes; here are the budgets with which a text without tags does not.
* With a budget that is enough for every loop body, or of one pass, the expansion of a loop that is flat is the one that
  more passes give (`follows_loop`, `follows_resolve`), and so a text without tags is final.
* With any other budget some text without tags is not final (`overBudget_not_final`): what the passes over a loop body
  leave undecided is decided in the scope around the loop.
* **The exact condition** (`final_iff`).
-/

namespace Stencil

open Resolve (Ensures Follows)
open Text (BraceFree)

/-! ## Texts without tags -/

/-- No directive tag opens anywhere in the text. -/
def TagFree (t : Text) : Prop := ∀ u v, t = u ++ v → openTag? v = none

theorem tagFree_nil : TagFree [] := by
  intro u v h
  rw [(List.nil_eq_append_iff.1 h).2]
  rfl

theorem TagFree.after {t u : Text} (h : TagFree (t ++ u)) : TagFree u := by
  intro a b hab
  exact h (t ++ a) b (by rw [hab, List.append_assoc])

namespace Markup

theorem not_tagFree_openText {kind : TagKind} {n : Text} (hn : IsName n) (t : Text) :
    ¬TagFree (openText kind n ++ t) := by
  intro h
  have hnone : openTag? (openText kind n ++ t) = none := h [] _ rfl
  have hread := openTagOf?_openText kind hn t
  cases kind with
  | conditional =>
    rw [openTag?, hread] at hnone
    cases hnone
  | loop =>
    have hkind : TagKind.conditional ≠ .loop := by decide
    rw [openTag?, openTagOf?_of_ne hkind, hread] at hnone
    cases hnone

/-- A tree whose written form has no tags is flat. -/
theorem flat_of_tagFree {p : Text → Prop} : ∀ {m : Markup}, m.Formed p → TagFree m.print → m.Flat
  | done, _, _ => trivial
  | text _ rest, ⟨_, hr⟩, h => flat_of_tagFree (m := rest) hr h.after
  | place _ rest, ⟨_, _, hr⟩, h => flat_of_tagFree (m := rest) hr h.after
  | when n yes rest, ⟨hn, _, _⟩, h => by
    simp only [print, List.append_assoc] at h
    exact absurd h (not_tagFree_openText hn _)
  | choice n yes no rest, ⟨hn, _, _, _⟩, h => by
    simp only [print, List.append_assoc] at h
    exact absurd h (not_tagFree_openText hn _)
  | each n body rest, ⟨hn, _, _⟩, h => by
    simp only [print, List.append_assoc] at h
    exact absurd h (not_tagFree_openText hn _)

/-! ## Agreement of steps -/

theorem follows_answer? (scope : Scope) (frame : Frame) (n : Text) :
    Follows (fun _ => True) (scope.answer? frame n) (scope.answer? frame n) := by
  have hheld : ∀ v, Follows (fun _ => True) (some <$> Resolve.holdValue v) (some <$> Resolve.holdValue v) := by
    intro v
    rw [← bind_pure_comp]
    exact (Resolve.follows_holdValue v).seq fun _ => .pure _ _
  unfold Scope.answer?
  split
  · exact .pure _ _
  · split
    · exact .pure _ _
    · split
      · exact hheld _
      · split
        · exact hheld _
        · exact .pure _ _

theorem follows_fillWith {answer : Text → Resolve (Option Text)}
    (ha : ∀ n, Follows (fun _ => True) (answer n) (answer n)) :
    ∀ m : Markup, Follows (fun _ => True) (m.fillWith answer) (m.fillWith answer)
  | done => .pure _ _
  | text _ rest => (follows_fillWith ha rest).seq fun _ => .pure _ _
  | place n rest => (ha n).seq fun _ => (follows_fillWith ha rest).seq fun _ => .pure _ _
  | when _ yes rest => (follows_fillWith ha yes).seq fun _ => (follows_fillWith ha rest).seq fun _ => .pure _ _
  | choice _ yes no rest => (follows_fillWith ha yes).seq fun _ => (ha elseName).seq fun _ =>
      (follows_fillWith ha no).seq fun _ => (follows_fillWith ha rest).seq fun _ => .pure _ _
  | each _ body rest => (follows_fillWith ha body).seq fun _ => (follows_fillWith ha rest).seq fun _ => .pure _ _

/-- Filling leaves conditionals and loops: what is flat after it was flat before it. -/
theorem flat_of_fillWith {answer : Text → Resolve (Option Text)} : ∀ m : Markup,
    (m.fillWith answer).Ensures fun m' => m'.Flat → m.Flat
  | done => .pure id
  | text _ rest => (flat_of_fillWith rest).bind fun _ h => .pure h
  | place _ rest => (Ensures.true _).bind fun o _ => (flat_of_fillWith rest).bind fun _ h => .pure <| by
      cases o <;> exact h
  | when _ yes rest => (Ensures.true _).bind fun _ _ => (Ensures.true _).bind fun _ _ => .pure False.elim
  | choice _ yes no rest => (Ensures.true _).bind fun _ _ => (Ensures.true _).bind fun o _ =>
      (Ensures.true _).bind fun _ _ => (Ensures.true _).bind fun _ _ => .pure <| by cases o <;> exact False.elim
  | each _ body rest => (Ensures.true _).bind fun _ _ => (Ensures.true _).bind fun _ _ => .pure False.elim

section Agreement

variable {onTree onTree' : Scope → Markup → Resolve Markup} {body : Markup}

theorem follows_elements (h : ∀ s, Follows Flat (onTree s body) (onTree' s body)) (scope : Scope) :
    ∀ (index : Nat) (items : List Value), Follows Flat (resolveElements onTree scope body index items)
      (resolveElements onTree' scope body index items)
  | _, [] => .pure _ _
  | index, item :: items => by
    have helement : Follows Flat (resolveElement onTree scope body ⟨index, item⟩)
        (resolveElement onTree' scope body ⟨index, item⟩) :=
      (h _).bind (.true _) (fun m _ => (follows_fillWith (follows_answer? _ _) m).weaken fun _ _ => trivial)
        fun m => flat_of_fillWith m
    refine helement.bind (.true _) (fun m _ => ?_) fun m => ?_
    · refine (follows_elements h scope (index + 1) items).bind (.true _) (fun _ _ => .pure _ _) fun m' => ?_
      exact .pure fun hflat => (flat_append.1 hflat).2
    · exact (Ensures.true _).bind fun m' _ => .pure fun hflat => (flat_append.1 hflat).1

/-- Where the expansion of a loop is flat, it is the one of a resolution that follows in the scopes of the elements. -/
theorem follows_loop (h : ∀ s, Follows Flat (onTree s body) (onTree' s body)) (scope : Scope) (n : Text) :
    Follows Flat (resolveLoop onTree scope n body) (resolveLoop onTree' scope n body) := by
  unfold resolveLoop
  split
  · exact follows_elements h scope 0 _
  · exact .pure _ _

/-- A condition on trees that is met by the parts of what meets it. -/
structure Inherited (q : Markup → Prop) : Prop where
  text {t : Text} {rest : Markup} : q (text t rest) → q rest
  place {n : Text} {rest : Markup} : q (place n rest) → q rest
  when {n : Text} {yes rest : Markup} : q (when n yes rest) → q yes ∧ q rest
  choice {n : Text} {yes no rest : Markup} : q (choice n yes no rest) → q yes ∧ q no ∧ q rest
  append {a b : Markup} : q (a ++ b) → q a ∧ q b

theorem inherited_true : Inherited fun _ => True := by
  constructor <;> intros <;> simp

theorem inherited_flat : Inherited Flat where
  text := id
  place := id
  when := False.elim
  choice := False.elim
  append := flat_append.1

variable {q r : Markup → Prop} {f g : Text → Markup → Resolve Markup}

theorem follows_expandWith (hq : Inherited q) (h : ∀ n body, r body → Follows q (f n body) (g n body)) :
    ∀ m : Markup, m.Bodies r → Follows q (m.expandWith f) (m.expandWith g)
  | done, _ => .pure _ _
  | text _ rest, hr => (follows_expandWith hq h rest hr).bind (.true _) (fun _ _ => .pure _ _) fun _ => .pure hq.text
  | place _ rest, hr => (follows_expandWith hq h rest hr).bind (.true _) (fun _ _ => .pure _ _) fun _ => .pure hq.place
  | when _ yes rest, ⟨hy, hr⟩ =>
    (follows_expandWith hq h yes hy).bind (.true _)
      (fun _ _ => (follows_expandWith hq h rest hr).bind (.true _) (fun _ _ => .pure _ _)
        fun _ => .pure fun hw => (hq.when hw).2)
      fun _ => (Ensures.true _).bind fun _ _ => .pure fun hw => (hq.when hw).1
  | choice _ yes no rest, ⟨hy, hno, hr⟩ =>
    (follows_expandWith hq h yes hy).bind (.true _)
      (fun _ _ => (follows_expandWith hq h no hno).bind (.true _)
        (fun _ _ => (follows_expandWith hq h rest hr).bind (.true _) (fun _ _ => .pure _ _)
          fun _ => .pure fun hw => (hq.choice hw).2.2)
        fun _ => (Ensures.true _).bind fun _ _ => .pure fun hw => (hq.choice hw).2.1)
      fun _ => (Ensures.true _).bind fun _ _ => (Ensures.true _).bind fun _ _ => .pure fun hw => (hq.choice hw).1
  | each n body rest, ⟨hb, hr⟩ =>
    (h n body hb).bind (.true _)
      (fun _ _ => (follows_expandWith hq h rest hr).bind (.true _) (fun _ _ => .pure _ _)
        fun _ => .pure fun hw => (hq.append hw).2)
      fun _ => (Ensures.true _).bind fun _ _ => .pure fun hw => (hq.append hw).1

end Agreement

/-! ## Agreement of runs -/

section Runs

/-- A flat tree comes back as it is, with nothing held. -/
theorem settle_flat {step : Markup → Resolve Markup} {m : Markup} (hs : step m = pure m) :
    ∀ (budget : Nat) (l : Ledger), ∃ l', (settle step budget m).run l = .ok m l' ∧ l'.slots = l.slots
  | 0, l => ⟨{ l with exhausted := l.exhausted + 1 }, rfl, rfl⟩
  | budget + 1, l => ⟨l, by rw [settle, hs, pure_bind, if_pos rfl]; rfl, rfl⟩

theorem pass_flat (onTree : Scope → Markup → Resolve Markup) (scope : Scope) {m : Markup} (hm : m.Flat) :
    pass onTree scope m = pure m := by
  rw [pass_of_loopFree onTree scope hm.loopFree, hm.round_eq]

variable {step step' : Markup → Resolve Markup}

/-- Nothing is left to be done to a flat tree by more passes. -/
theorem follows_settle_zero (hflat : ∀ m, m.Flat → step' m = pure m) (more : Nat) (m : Markup) :
    Follows Flat (settle step 0 m) (settle step' more m) := by
  intro l l' a k hl hrun ha
  cases hrun
  obtain ⟨k', hrun', hk'⟩ := settle_flat (hflat _ ha) more l'
  exact ⟨k', hrun', hk'.trans hl.symm⟩

theorem follows_settle {p : Markup → Prop} (hstep : ∀ m, p m → Follows (fun _ => True) (step m) (step' m))
    (hp : ∀ m, p m → (step m).Ensures p) (hflat : ∀ m, m.Flat → step' m = pure m) :
    ∀ (budget more : Nat) (m : Markup), budget ≤ more → p m →
      Follows Flat (settle step budget m) (settle step' more m)
  | 0, more, m, _, _ => follows_settle_zero hflat more m
  | budget + 1, 0, _, hle, _ => absurd hle (Nat.not_succ_le_zero _)
  | budget + 1, more + 1, m, hle, hm => by
    refine (hstep m hm).bind (hp m hm) (fun m' hm' => ?_) fun _ _ _ _ _ _ => trivial
    split
    · exact .pure _ _
    · exact follows_settle hstep hp hflat budget more m' (Nat.le_of_succ_le_succ hle) hm'

/-- A single pass: only its result counts. -/
theorem follows_settle_one (hflat : ∀ m, m.Flat → step' m = pure m) {m : Markup}
    (hstep : Follows Flat (step m) (step' m)) (more : Nat) :
    Follows Flat (settle step 1 m) (settle step' (more + 1) m) := by
  refine hstep.bind (.true _) (fun m' _ => ?_) fun m' => ?_
  · split
    · exact .pure _ _
    · exact follows_settle_zero hflat more m'
  · split
    · exact .pure id
    · exact (Ensures.true _).bind fun _ _ => .pure id

/-- **More passes** give the same flat tree, if the budget is enough for every loop body or is a single pass. -/
theorem follows_resolve {budget more : Nat} (hb : 0 < budget) (hle : budget ≤ more) : ∀ (depth : Nat) (s : Scope)
    (m : Markup), m.Formed BraceFree → m.bodyDepth ≤ budget ∨ budget = 1 →
      Follows Flat (resolve budget depth s m) (resolve more depth s m)
  | 0, _, _, _, _ => fun _ _ _ _ _ hrun => by cases hrun
  | depth + 1, s, m, hm, hd => by
    have hflat : ∀ m : Markup, m.Flat → pass (resolve more depth) s m = pure m := fun m h => pass_flat _ s h
    rcases hd with hd | rfl
    · refine follows_settle (p := Bodies fun body => body.Formed BraceFree ∧ body.depth ≤ budget) (fun m hm => ?_)
        (fun m _ => ?_) hflat budget more m hle (hm.bodies.and (bodies_depth hd))
      · refine follows_expandWith inherited_true (fun n body ⟨hform, hbody⟩ => ?_) _ (hm.round s.holds)
        have hfollows := follows_loop (fun s' => follows_resolve hb hle depth s' body hform
          (.inl ((depth_le_iff body).1 hbody).2)) s n
        exact hfollows.of_ensures <|
          ensures_loop splices_flat (fun s' => ensures_flat_resolve hb depth s' body hform hbody) s n
      · exact fun l => (ensures_loopFree_pass (ensures_loopFree_resolve hb depth) s m l).mono fun _ _ h => h.bodies
    · obtain ⟨more, rfl⟩ := Nat.exists_eq_succ_of_ne_zero (Nat.ne_of_gt hle)
      refine follows_settle_one hflat ?_ more
      refine follows_expandWith inherited_flat (fun n body hform => ?_) _ (hm.bodies.round s.holds)
      exact follows_loop (fun s' => follows_resolve hb hle depth s' body hform (.inr rfl)) s n

end Runs

/-! ## Conditionals that outnumber the passes -/

/-- So many conditionals, one in the other. -/
def nested : Nat → Markup
  | 0 => lit "X"
  | k + 1 => when ['a'] (nested k) done

/-- A loop over one element around nested conditionals. -/
def overBudget (k : Nat) : Markup := each ['x', 's'] (nested k) done

/-- An element with the field that the nested conditionals ask for. -/
def element : Value := .record [(.str "a".text, .bool true)]

def overBudgetVariables : Fields := [(.str "xs".text, .list [element])]

theorem braceFree_nested : ∀ k, (nested k).Formed BraceFree
  | 0 => ⟨by decide, trivial⟩
  | k + 1 => ⟨by decide, braceFree_nested k, trivial⟩

theorem braceFree_overBudget (k : Nat) : (overBudget k).Formed BraceFree :=
  ⟨by decide, braceFree_nested k, trivial⟩

theorem loopFree_nested : ∀ k, (nested k).LoopFree
  | 0 => trivial
  | k + 1 => ⟨loopFree_nested k, trivial⟩

theorem depth_nested : ∀ k, (nested k).depth = k
  | 0 => rfl
  | k + 1 => by
    have houter : ∀ k, (nested k).outerDepth = k := by
      intro k
      induction k with
      | zero => rfl
      | succ k ih => simp [nested, outerDepth, ih]
    simp [nested, depth, outerDepth, depth_nested k, houter k]

theorem round_nested {holds : Text → Bool} (h : holds ['a'] = true) (k : Nat) :
    (nested (k + 1)).round holds = nested k := by
  have hchoose : ∀ k, (nested k).choose true holds = nested k := by
    intro k
    induction k with
    | zero => rfl
    | succ k ih => simp [nested, choose, ih]
  rw [round, hchoose]
  simp [nested, choose, h]

theorem print_nested_ne (k : Nat) : (nested k).print ≠ (nested (k + 1)).print := by
  intro h
  have hlen := congrArg List.length h
  have hopen : 0 < (openText .conditional ['a']).length := by decide
  simp only [nested, print, List.length_append] at hlen
  omega

/-- So many passes take off so many of the nested conditionals. -/
theorem settle_nested (onTree : Scope → Markup → Resolve Markup) {s : Scope} (h : s.holds ['a'] = true) (j : Nat) :
    ∀ (budget : Nat) (l : Ledger), ∃ l',
      (settle (pass onTree s) budget (nested (j + budget))).run l = .ok (nested j) l' ∧ l'.slots = l.slots
  | 0, l => ⟨{ l with exhausted := l.exhausted + 1 }, rfl, rfl⟩
  | budget + 1, l => by
    rw [settle, ← Nat.add_assoc, pass_of_loopFree _ _ (loopFree_nested _), pure_bind, round_nested h,
      if_neg (print_nested_ne _)]
    exact settle_nested onTree h j budget l

/-- The expansion of the loop leaves the conditionals that the budget is short of. -/
theorem pass_overBudget (depth j budget : Nat) (l : Ledger) : ∃ l',
    (pass (resolve budget (depth + 1)) (.outer overBudgetVariables) (overBudget (j + budget))).run l
      = .ok (nested j) l' ∧ l'.slots = l.slots := by
  obtain ⟨l', hrun, hslots⟩ := settle_nested (resolve budget depth)
    (s := (Scope.outer overBudgetVariables).enter 0 element) rfl j budget l
  have hfill : ∀ (answer : Text → Resolve (Option Text)) (k : Nat), (nested k).fillWith answer = pure (nested k) := by
    intro answer k
    induction k with
    | zero => rfl
    | succ k ih => simp [nested, fillWith, ih]
  refine ⟨l', ?_, hslots⟩
  -- the loop has one element, so its expansion is what its body resolves to
  have hround : (overBudget (j + budget)).round (Scope.outer overBudgetVariables).holds = overBudget (j + budget) := rfl
  have hitems : ((Scope.outer overBudgetVariables).lookup ['x', 's']).elements? = some [element] := rfl
  rw [pass, hround, overBudget, expandWith, resolveLoop, hitems]
  have hbody : (resolve budget (depth + 1) ((Scope.outer overBudgetVariables).enter 0 element)
      (nested (j + budget))).run l = .ok (nested j) l' := hrun
  simp only [resolveElements, resolveElement, bind_assoc]
  rw [Resolve.run_bind_ok hbody]
  simp only [hfill, pure_bind, append_done, expandWith]
  rfl

theorem print_overBudget_ne (j k : Nat) : (nested j).print ≠ (overBudget k).print := by
  intro h
  exact loopFree_of_print (l := .outside) (.formed (braceFree_overBudget k)) (.formed (braceFree_nested j))
    (loopFree_nested j) h

/-- With one pass too few, the conditional that is left is decided outside the loop, where its name is not known. -/
theorem resolve_overBudget_short (depth k : Nat) (l : Ledger) : ∃ l', (resolve (k + 2) (depth + 2)
    (.outer overBudgetVariables) (overBudget (k + 3))).run l = .ok done l' ∧ l'.slots = l.slots := by
  obtain ⟨l₁, hpass, hslots₁⟩ := pass_overBudget depth 1 (k + 2) l
  have hcount : 1 + (k + 2) = k + 3 := by omega
  rw [hcount] at hpass
  have hround : (nested 1).round (Scope.outer overBudgetVariables).holds = done := rfl
  have hne : done.print ≠ (nested 1).print := by decide
  obtain ⟨l', hrest, hslots⟩ := settle_flat (pass_flat (resolve (k + 2) (depth + 1)) (.outer overBudgetVariables)
    (m := done) trivial) k l₁
  refine ⟨l', ?_, hslots.trans hslots₁⟩
  rw [resolve, settle, Resolve.run_bind_ok hpass, if_neg (print_overBudget_ne 1 _), settle,
    pass_of_loopFree _ _ (loopFree_nested 1), pure_bind, hround, if_neg hne, hrest]

/-- With enough passes the text of the element is there. -/
theorem resolve_overBudget_enough (depth k : Nat) (l : Ledger) : ∃ l', (resolve (k + 3) (depth + 2)
    (.outer overBudgetVariables) (overBudget (k + 3))).run l = .ok (nested 0) l' ∧ l'.slots = l.slots := by
  obtain ⟨l₁, hpass, hslots₁⟩ := pass_overBudget depth 0 (k + 3) l
  rw [Nat.zero_add] at hpass
  obtain ⟨l', hrest, hslots⟩ := settle_flat (pass_flat (resolve (k + 3) (depth + 1)) (.outer overBudgetVariables)
    (m := nested 0) trivial) (k + 2) l₁
  refine ⟨l', ?_, hslots.trans hslots₁⟩
  rw [resolve, settle, Resolve.run_bind_ok hpass, if_neg (print_overBudget_ne 0 _), hrest]

end Markup

/-! ## Final results -/

/-- A result without tags is final: more passes give the same document. -/
def FinalWhenTagFree (budget : Nat) (m : Markup) : Prop := ∀ vars resolved ledger,
  (resolveDirectives budget m.print vars).run .empty = .ok resolved ledger → TagFree resolved →
    ∀ more, budget ≤ more → ∃ resolved' ledger',
      (resolveDirectives more m.print vars).run .empty = .ok resolved' ledger' ∧
      ledger'.slots.restore resolved' = ledger.slots.restore resolved

open Markup

theorem final_of_bodyDepth {budget : Nat} (hb : 0 < budget) {m : Markup} (hm : m.Formed BraceFree)
    (hd : m.bodyDepth ≤ budget ∨ budget = 1) : FinalWhenTagFree budget m := by
  intro vars resolved ledger hrun hfree more hle
  rw [resolveDirectives_print hm] at hrun
  obtain ⟨m', hm', rfl⟩ := Resolve.run_map_eq_ok hrun
  have hform := (keepsBraceFree_resolve budget _ (.outer vars) m .empty hm m' ledger hm').2
  obtain ⟨ledger', hmore, hslots⟩ := follows_resolve hb hle _ (.outer vars) m hm hd .empty .empty m' ledger rfl hm'
    (flat_of_tagFree hform hfree)
  refine ⟨m'.print, ledger', ?_, by rw [hslots]⟩
  rw [resolveDirectives_print hm, Resolve.run_map, hmore]

theorem overBudget_not_final (k : Nat) : ¬FinalWhenTagFree (k + 2) (overBudget (k + 3)) := by
  intro h
  have hm := braceFree_overBudget (k + 3)
  have hallowance : depthAllowance (overBudget (k + 3)).print = (overBudget (k + 3)).print.length + 198 + 2 := rfl
  obtain ⟨l, hshort, hl⟩ := resolve_overBudget_short ((overBudget (k + 3)).print.length + 198) k .empty
  obtain ⟨l', henough, hl'⟩ := resolve_overBudget_enough ((overBudget (k + 3)).print.length + 198) k .empty
  have hrun : (resolveDirectives (k + 2) (overBudget (k + 3)).print overBudgetVariables).run .empty = .ok [] l := by
    rw [resolveDirectives_print hm, hallowance, Resolve.run_map, hshort]
    rfl
  have hmore : (resolveDirectives (k + 3) (overBudget (k + 3)).print overBudgetVariables).run .empty
      = .ok (nested 0).print l' := by
    rw [resolveDirectives_print hm, hallowance, Resolve.run_map, henough]
  obtain ⟨resolved', ledger', hrun', hrestore⟩ := h _ _ _ hrun tagFree_nil (k + 3) (by omega)
  rw [hmore] at hrun'
  cases hrun'
  rw [hl, hl'] at hrestore
  cases hrestore

/-- **When results without tags are final**, for all templates whose texts hold no opening brace: exactly where no loop
body nests more conditionals than there are passes, or where there is a single pass. -/
theorem final_iff (budget : PassBudget) (d : Nat) :
    (∀ m : Markup, m.Formed BraceFree → m.bodyDepth ≤ d → FinalWhenTagFree budget.val m) ↔
      d ≤ budget.val ∨ budget.val = 1 := by
  obtain ⟨budget, hb⟩ := budget
  constructor
  · intro h
    by_cases hone : budget = 1
    · exact .inr hone
    by_cases hd : d ≤ budget
    · exact .inl hd
    obtain ⟨k, rfl⟩ : ∃ k, budget = k + 2 := ⟨budget - 2, by omega⟩
    refine absurd (h (overBudget (k + 3)) (braceFree_overBudget _) ?_) (overBudget_not_final k)
    simp only [overBudget, bodyDepth, depth_nested]
    omega
  · intro h m hm hd
    refine final_of_bodyDepth hb hm ?_
    rcases h with h | h
    · exact .inl (by simp only at h; omega)
    · exact .inr h

end Stencil
