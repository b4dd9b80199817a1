import Stencil.Markup.Evaluation
import Stencil.Proofs.Directive.Settling

/-!
# Which values are held

A pass decides, of the conditionals around a loop, the outermost one of each kind, and then enters the loop. Loops in
branches that a later pass would drop are entered too.

* **Answers of an element** (`Frame.held?`, `Frame.answers`) and the names that no element answers (`Markup.left`).
* **Held values** (`Markup.HeldPrint`): all values that are held while a tree is resolved have a printed text.
* Resolving a tree succeeds exactly then, and leaves the placeholders of those names (`succeedsIff_resolve`).
-/

namespace Stencil

/-- The value has a printed text. -/
def Value.HasText (v : Value) : Prop := ∃ t, v.printed = .ok t

/-! ## Answers of an element -/

namespace Frame

/-- The value that is held when an element answers a placeholder. -/
def held? (f : Frame) (name : Text) : Option Value :=
  if reservedNames.contains name ∨ name = indexName then none
  else if name = thisName ∨ thisPoint.isPrefixOf name then some (((Scope.outer []).enter f.index f.item).lookup name)
  else f.fields.get? name

/-- Whether an element answers a placeholder. -/
def answers (f : Frame) (name : Text) : Bool := name = indexName || (f.held? name).isSome

end Frame

namespace Scope

variable {s : Scope} {f : Frame} {n : Text}

/-- What is read from the element itself does not depend on the scope around the loop. -/
theorem lookup_this (h : n = thisName ∨ thisPoint.isPrefixOf n = true) :
    (s.enter f.index f.item).lookup n = ((outer []).enter f.index f.item).lookup n := by
  rcases h with rfl | h
  · rfl
  · rw [lookup, lookup, Text.after?, if_pos h]
    rfl

/-- An element answers with its number or with a held value. -/
theorem answer?_eq : (s.enter f.index f.item).answer? f n =
    if n = indexName then pure (some (Text.ofNat f.index))
    else match f.held? n with
      | some v => some <$> Resolve.holdValue v
      | none => pure none := by
  by_cases hindex : n = indexName
  · subst hindex
    rfl
  rw [if_neg hindex, answer?, Frame.held?]
  by_cases hreserved : reservedNames.contains n = true
  · rw [if_pos hreserved, if_pos (.inl hreserved)]
  rw [if_neg hreserved, if_neg hindex, if_neg (not_or.2 ⟨hreserved, hindex⟩)]
  by_cases hthis : n = thisName ∨ thisPoint.isPrefixOf n = true
  · rw [if_pos hthis, if_pos hthis, lookup_this hthis]
  · cases f.fields.get? n <;> simp only [if_neg hthis]

/-- An element fails to answer a name exactly if the value that it holds for it has no text. -/
theorem succeedsIff_answer? (s : Scope) (f : Frame) (n : Text) :
    Resolve.SucceedsIff (∀ v, f.held? n = some v → v.HasText) (fun o => o.isSome = f.answers n)
      ((s.enter f.index f.item).answer? f n) := by
  rw [answer?_eq]
  by_cases hindex : n = indexName
  · subst hindex
    have hheld : f.held? indexName = none := by
      rw [Frame.held?, if_pos (.inr rfl)]
    rw [if_pos rfl]
    refine (Resolve.SucceedsIff.pure ?_).mono ?_ fun _ h => h
    · simp [Frame.answers]
    · simp [hheld]
  · rw [if_neg hindex]
    cases hheld : f.held? n with
    | none =>
      refine (Resolve.SucceedsIff.pure ?_).mono ?_ fun _ h => h
      · simp [Frame.answers, hindex, hheld]
      · simp
    | some v =>
      refine ((Resolve.succeedsIff_holdValue v).map ?_).mono ?_ fun _ h => h
      · intro t _
        simp [Frame.answers, hheld]
      · simp [Value.HasText]

end Scope

namespace Markup

open Resolve (SucceedsIff)
open Text (BraceFree)

/-! ## Names that are left -/

/-- The names of the placeholders that are left when a tree is resolved: those in its branches, as often as loops repeat
them, but for those that the elements of its loops answer. -/
def left : Markup → Scope → List Text
  | done, _ => []
  | text _ rest, s => rest.left s
  | place n rest, s => n :: rest.left s
  | when n yes rest, s => (if s.holds n then yes.left s else []) ++ rest.left s
  | choice n yes no rest, s => (if s.holds n then yes.left s else no.left s) ++ rest.left s
  | each n body rest, s =>
    (loopItems s n).flatMap (fun (item, index) =>
      (body.left (s.enter index item)).filter fun name => !(Frame.mk index item).answers name) ++ rest.left s

theorem left_append (b : Markup) (s : Scope) (a : Markup) : (a ++ b).left s = a.left s ++ b.left s := by
  induction a with
  | done => rfl
  | text t rest ih => exact ih
  | place n rest ih => simp [left, ih]
  | when n yes rest _ ih => simp [left, ih]
  | choice n yes no rest _ _ ih => simp [left, ih]
  | each n body rest _ ih => simp [left, ih]

/-- A flat tree is left as it is, wherever it stands. -/
theorem Flat.left_eq (s s' : Scope) {m : Markup} (hm : m.Flat) : m.left s = m.left s' := by
  induction m with
  | done => rfl
  | text t rest ih => exact ih hm
  | place n rest ih => rw [left, left, ih hm]
  | when n yes rest _ _ => exact hm.elim
  | choice n yes no rest _ _ _ => exact hm.elim
  | each n body rest _ _ => exact hm.elim

/-- A turn drops only branches that are not taken. -/
theorem left_choose (w : Bool) (s : Scope) (m : Markup) : (m.choose w s.holds).left s = m.left s := by
  induction m with
  | done => rfl
  | text t rest ih => exact ih
  | place n rest ih => simp [choose, left, ih]
  | when n yes rest ihy ih =>
    cases w with
    | true => simp [choose, left, ihy, ih]
    | false =>
      rw [choose, if_neg Bool.false_ne_true, left_append, left, ih]
      split <;> rfl
  | choice n yes no rest ihy ihn ih =>
    cases w with
    | true =>
      rw [choose, if_pos rfl, left_append, left, ih]
      split <;> rfl
    | false => simp [choose, left, ihy, ihn, ih]
  | each n body rest _ ih => simp [choose, left, ih]

theorem left_round (s : Scope) (m : Markup) : (m.round s.holds).left s = m.left s := by
  rw [round, left_choose, left_choose]

/-! ## Held values -/

/-- What an element holds for the names that are left of a loop body has a text. -/
def AnswersPrint (body : Markup) (s : Scope) (f : Frame) : Prop :=
  ∀ n ∈ body.left (s.enter f.index f.item), ∀ v, f.held? n = some v → v.HasText

/-- All values that are held while a tree is resolved have a text. The tree may stand in a conditional with one branch,
and in one with two branches: these are decided before loops are entered, and further ones of their kind are not. -/
def HeldPrint : Markup → Bool → Bool → Scope → Prop
  | done, _, _, _ => True
  | text _ rest, single, double, s => rest.HeldPrint single double s
  | place _ rest, single, double, s => rest.HeldPrint single double s
  | when n yes rest, single, double, s =>
    (single = true ∨ s.holds n = true → yes.HeldPrint true double s) ∧ rest.HeldPrint single double s
  | choice n yes no rest, single, double, s =>
    (double = true ∨ s.holds n = true → yes.HeldPrint single true s) ∧
      (double = true ∨ s.holds n = false → no.HeldPrint single true s) ∧ rest.HeldPrint single double s
  | each n body rest, single, double, s =>
    (∀ p ∈ loopItems s n, body.HeldPrint false false (s.enter p.2 p.1) ∧ body.AnswersPrint s ⟨p.2, p.1⟩) ∧
      rest.HeldPrint single double s

variable {s : Scope} {single double : Bool}

theorem heldPrint_append (b : Markup) (a : Markup) :
    (a ++ b).HeldPrint single double s ↔ a.HeldPrint single double s ∧ b.HeldPrint single double s := by
  induction a with
  | done => simp [HeldPrint]
  | text t rest ih => exact ih
  | place n rest ih => exact ih
  | when n yes rest _ ih => simp only [when_append, HeldPrint, ih, and_assoc]
  | choice n yes no rest _ _ ih => simp only [choice_append, HeldPrint, ih, and_assoc]
  | each n body rest _ ih => simp only [each_append, HeldPrint, ih, and_assoc]

theorem heldPrint_of_loopFree {m : Markup} (hm : m.LoopFree) : m.HeldPrint single double s := by
  induction m generalizing single double with
  | done => trivial
  | text t rest ih => exact ih hm
  | place n rest ih => exact ih hm
  | when n yes rest ihy ih => exact ⟨fun _ => ihy hm.1, ih hm.2⟩
  | choice n yes no rest ihy ihn ih => exact ⟨fun _ => ihy hm.1, fun _ => ihn hm.2.1, ih hm.2.2⟩
  | each n body rest _ _ => exact hm.elim

/-- The first turn decides the outermost conditionals with two branches. -/
theorem heldPrint_choose_true (m : Markup) :
    (m.choose true s.holds).HeldPrint single true s ↔ m.HeldPrint single false s := by
  induction m generalizing single with
  | done => exact Iff.rfl
  | text t rest ih => exact ih
  | place n rest ih => exact ih
  | when n yes rest ihy ih => simp only [choose, if_true, HeldPrint, ihy, ih]
  | choice n yes no rest _ _ ih =>
    rw [choose, if_pos rfl, heldPrint_append, ih, HeldPrint]
    cases s.holds n <;> simp
  | each n body rest _ ih => simp only [choose, HeldPrint, ih]

/-- The second turn decides the outermost conditionals with one branch. -/
theorem heldPrint_choose_false (m : Markup) :
    (m.choose false s.holds).HeldPrint true double s ↔ m.HeldPrint false double s := by
  induction m generalizing double with
  | done => exact Iff.rfl
  | text t rest ih => exact ih
  | place n rest ih => exact ih
  | when n yes rest _ ih =>
    rw [choose, if_neg Bool.false_ne_true, heldPrint_append, ih, HeldPrint]
    cases s.holds n <;> simp [HeldPrint]
  | choice n yes no rest ihy ihn ih => simp only [choose, Bool.false_eq_true, if_false, HeldPrint, ihy, ihn, ih]
  | each n body rest _ ih => simp only [choose, HeldPrint, ih]

/-- After both turns all loops that are left are entered. -/
theorem heldPrint_round (m : Markup) : (m.round s.holds).HeldPrint true true s ↔ m.HeldPrint false false s := by
  rw [round, heldPrint_choose_false, heldPrint_choose_true]

/-! ## Filling -/

theorem left_filled (n : Text) (rest : Markup) (o : Option Text) :
    (filled n rest o).left s = (if o.isSome then [] else [n]) ++ rest.left s := by
  cases o <;> rfl

/-- Filling a flat tree succeeds exactly if all its names are answered without a failure, and leaves those that have no
answer. -/
theorem succeedsIff_fillWith {answer : Text → Resolve (Option Text)} {ok : Text → Prop} {answers : Text → Bool}
    (ha : ∀ n, SucceedsIff (ok n) (fun o => o.isSome = answers n) (answer n)) {m : Markup} (hm : m.Flat) (s : Scope) :
    SucceedsIff (∀ n ∈ m.left s, ok n) (fun m' => m'.Flat ∧ m'.left s = (m.left s).filter fun n => !answers n)
      (m.fillWith answer) := by
  induction m with
  | done => exact (SucceedsIff.pure ⟨trivial, rfl⟩).mono (by simp [left]) fun _ h => h
  | text t rest ih => exact ((ih hm).bind fun m' h => .pure h).mono (by simp [left]) fun _ h => h
  | place n rest ih =>
    refine ((ha n).bind (d := ∀ n ∈ rest.left s, ok n) fun o ho => ?_).mono (by simp [left]) fun _ h => h
    refine ((ih hm).bind (d := True) fun m' ⟨hflat, hleft⟩ => .pure ⟨?_, ?_⟩).mono (by simp) fun _ h => h
    · cases o <;> exact hflat
    · rw [left_filled, hleft, ho, left, List.filter_cons]
      cases answers n <;> rfl
  | when n yes rest _ _ => exact hm.elim
  | choice n yes no rest _ _ _ => exact hm.elim
  | each n body rest _ _ => exact hm.elim

/-! ## Loops -/

section Loops

variable {onTree : Scope → Markup → Resolve Markup} {body : Markup}

/-- Resolving the tree, in any scope, succeeds exactly if what it holds has a text, and leaves a flat tree with the
names that are left. -/
def Resolves (onTree : Scope → Markup → Resolve Markup) (m : Markup) : Prop := ∀ s,
  SucceedsIff (m.HeldPrint false false s) (fun m' => m'.Flat ∧ ∀ s', m'.left s' = m.left s) (onTree s m)

theorem succeedsIff_element (hb : Resolves onTree body) (s : Scope) (f : Frame) :
    SucceedsIff (body.HeldPrint false false (s.enter f.index f.item) ∧ body.AnswersPrint s f)
      (fun m => m.Flat ∧
        m.left s = (body.left (s.enter f.index f.item)).filter fun n => !f.answers n)
      (resolveElement onTree s body f) := by
  refine (hb _).bind fun m ⟨hflat, hleft⟩ => ?_
  have hfill := succeedsIff_fillWith (Scope.succeedsIff_answer? s f) hflat s
  rw [hleft s] at hfill
  exact hfill

theorem succeedsIff_elements (hb : Resolves onTree body) (s : Scope) (index : Nat) (items : List Value) :
    SucceedsIff (∀ p ∈ items.zipIdx index, body.HeldPrint false false (s.enter p.2 p.1) ∧
        body.AnswersPrint s ⟨p.2, p.1⟩)
      (fun m => m.Flat ∧ m.left s = (items.zipIdx index).flatMap fun (item, index) =>
        (body.left (s.enter index item)).filter fun n => !(Frame.mk index item).answers n)
      (resolveElements onTree s body index items) := by
  induction items generalizing index with
  | nil => exact (SucceedsIff.pure ⟨trivial, rfl⟩).mono (by simp) fun _ h => h
  | cons item items ih =>
    have hrest : ∀ m, (m.Flat ∧ m.left s =
        (body.left (s.enter index item)).filter fun n => !(Frame.mk index item).answers n) →
        SucceedsIff (∀ p ∈ items.zipIdx (index + 1), body.HeldPrint false false (s.enter p.2 p.1) ∧
            body.AnswersPrint s ⟨p.2, p.1⟩)
          (fun m => m.Flat ∧ m.left s = ((item :: items).zipIdx index).flatMap fun (item, index) =>
            (body.left (s.enter index item)).filter fun n => !(Frame.mk index item).answers n)
          (do return m ++ (← resolveElements onTree s body (index + 1) items)) := by
      rintro m ⟨hflat, hleft⟩
      refine ((ih (index + 1)).bind (d := True) fun m' ⟨hflat', hleft'⟩ => .pure ⟨?_, ?_⟩).mono (by simp)
        fun _ h => h
      · exact flat_append.2 ⟨hflat, hflat'⟩
      · rw [left_append, hleft, hleft', List.zipIdx_cons, List.flatMap_cons]
    refine ((succeedsIff_element hb s ⟨index, item⟩).bind hrest).mono ?_ fun _ h => h
    rw [List.zipIdx_cons, List.forall_mem_cons]

theorem succeedsIff_loop (hb : Resolves onTree body) (s : Scope) (n : Text) :
    SucceedsIff ((each n body done).HeldPrint true true s)
      (fun m => m.Flat ∧ m.left s = (each n body done).left s) (resolveLoop onTree s n body) := by
  have helements := succeedsIff_elements hb s 0 ((s.lookup n).elements?.getD [])
  have hrun : resolveLoop onTree s n body = resolveElements onTree s body 0 ((s.lookup n).elements?.getD []) := by
    rw [resolveLoop]
    cases (s.lookup n).elements? <;> rfl
  rw [hrun]
  refine helements.mono ?_ fun m h => ⟨h.1, ?_⟩
  · simp [HeldPrint, loopItems]
  · rw [h.2, left, left, List.append_nil, loopItems]

theorem succeedsIff_expandWith {f : Text → Markup → Resolve Markup} {r : Markup → Prop}
    (hf : ∀ n body, r body → SucceedsIff ((each n body done).HeldPrint true true s)
      (fun m => m.Flat ∧ m.left s = (each n body done).left s) (f n body)) {m : Markup} (hm : m.Bodies r) :
    SucceedsIff (m.HeldPrint true true s) (fun m' => m'.left s = m.left s) (m.expandWith f) := by
  induction m with
  | done => exact .pure rfl
  | text t rest ih => exact ((ih hm).bind fun m' h => .pure h).mono (by simp [HeldPrint]) fun _ h => h
  | place n rest ih =>
    exact ((ih hm).bind fun m' h => .pure (by rw [left, left, h])).mono (by simp [HeldPrint]) fun _ h => h
  | when n yes rest ihy ih =>
    exact ((ihy hm.1).bind fun y hy => (ih hm.2).bind fun m' h => .pure (by rw [left, left, hy, h])).mono
      (by simp [HeldPrint]) fun _ h => h
  | choice n yes no rest ihy ihn ih =>
    exact ((ihy hm.1).bind fun y hy => (ihn hm.2.1).bind fun o ho => (ih hm.2.2).bind fun m' h =>
      .pure (by rw [left, left, hy, ho, h])).mono (by simp [HeldPrint]) fun _ h => h
  | each n body rest _ ih =>
    refine ((hf n body hm.1).bind fun b hb => (ih hm.2).bind fun m' h => .pure ?_).mono ?_ fun _ h => h
    · rw [left_append, hb.2, h, left, left, left, List.append_nil]
    · simp [HeldPrint]

end Loops

/-! ## Whole runs -/

/-- Passes over a tree without loops hold nothing. -/
theorem succeedsIff_settle (onTree : Scope → Markup → Resolve Markup) (s : Scope) (budget : Nat) {m : Markup}
    (hm : m.LoopFree) : SucceedsIff True (fun m' => m'.left s = m.left s) (settle (pass onTree s) budget m) := by
  induction budget generalizing m with
  | zero =>
    exact (Resolve.succeedsIff_noteExhausted.bind (q := fun m' => m'.left s = m.left s) fun _ _ => .pure rfl).mono
      (by simp) fun _ h => h
  | succ budget ih =>
    rw [settle, pass_of_loopFree onTree s hm, pure_bind]
    split
    · exact .pure (left_round s m)
    · exact (ih (hm.round s.holds)).mono Iff.rfl fun _ h => h.trans (left_round s m)

/-- **Resolving a tree** succeeds exactly if all values that are held have a text, with any budget of at least as many
passes as conditionals nest in it without crossing a loop. The names that are left are those that no element answers. -/
theorem succeedsIff_resolve {budget : Nat} (hb : 0 < budget) (depth : Nat) : ∀ m : Markup, m.Formed BraceFree →
    m.depth ≤ budget → m.loopDepth < depth → Resolves (resolve budget depth) m := by
  induction depth with
  | zero => exact fun _ _ _ hl => absurd hl (Nat.not_lt_zero _)
  | succ depth ih =>
    intro m hm hd hl s
    have hflat := ensures_flat_resolve hb (depth + 1) s m hm hd
    suffices hsucceeds : SucceedsIff (m.HeldPrint false false s) (fun m' => m'.left s = m.left s)
        (resolve budget (depth + 1) s m) from
      (hsucceeds.and hflat).mono Iff.rfl fun m' h => ⟨h.2, fun s' => (h.2.left_eq s' s).trans h.1⟩
    have hbodies : (m.round s.holds).Bodies fun body =>
        (body.Formed BraceFree ∧ body.depth ≤ budget) ∧ body.loopDepth < depth :=
      ((hm.bodies.and (bodies_depth ((depth_le_iff m).1 hd).2)).and (bodies_loopDepth (by omega))).round s.holds
    have hpass : SucceedsIff (m.HeldPrint false false s) (fun m' => m'.left s = m.left s ∧ m'.LoopFree)
        (pass (resolve budget depth) s m) := by
      have hexpand := succeedsIff_expandWith (s := s) (f := resolveLoop (resolve budget depth) s) (fun n body hbody =>
        succeedsIff_loop (ih body hbody.1.1 hbody.1.2 hbody.2) s n) hbodies
      rw [heldPrint_round, left_round] at hexpand
      exact hexpand.and (ensures_loopFree_pass (ensures_loopFree_resolve hb depth) s m)
    obtain ⟨budget, rfl⟩ := Nat.exists_eq_succ_of_ne_zero (Nat.ne_of_gt hb)
    rw [resolve, settle]
    refine (hpass.bind (d := True) fun m' hm' => ?_).mono (by simp) fun _ h => h
    obtain ⟨hleft, hfree⟩ := hm'
    split
    · exact .pure hleft
    · exact (succeedsIff_settle _ s budget hfree).mono Iff.rfl fun _ h => h.trans hleft

end Markup

end Stencil
