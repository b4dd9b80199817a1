import Stencil.Proofs.Directive.OnTrees
import Stencil.Proofs.Directive.Faults
import Stencil.Proofs.Value.Parts

/-!
# How many texts are held

* **A bound** (`Markup.holdBound`): each placeholder of a tree is held once at most, and those of a loop body once for
  each element of its sequence.
* No step of a resolution raises the texts that are held together with the bound of what is left
  (`spends_resolve`). So a template holds no more texts than its own bound (`holds_le_holdBound`), where no sequence has
  more elements than the bound counts on (`Value.Sized`).
-/

namespace Stencil

/-! ## Sizes -/

/-- The sequences among the parts of a value have at most so many elements. -/
def Value.Sized (k : Nat) : Value → Prop := Throughout fun w => ∀ items, w.elements? = some items → items.length ≤ k

theorem Value.hereditary_sized (k : Nat) : Hereditary (Sized k) := hereditary_throughout fun _ h => by cases h

theorem Fields.mem_of_get? {fields : Fields} {name : Text} {v : Value} (h : fields.get? name = some v) :
    ∃ key, (key, v) ∈ fields := by
  fun_induction Fields.get? fields name with
  | case1 => cases h
  | case2 value rest =>
    cases h
    exact ⟨_, List.mem_cons_self⟩
  | case3 key value rest hkey ih => exact (ih h).imp fun _ => List.mem_cons_of_mem _
  | case4 entry rest hentry ih => exact (ih h).imp fun _ => List.mem_cons_of_mem _

namespace Value

/-- How many elements a word counts. -/
def wordBound : Nat := Nat.pow 2 63

variable {k : Nat} {v : Value}

theorem sized_of_no_parts (he : v.elements? = none) (hf : v.fields? = none) : v.Sized k :=
  throughout_of_parts (by simp [he]) (by simp [he]) (by simp [hf])

theorem sized_list {items : List Value} (hlength : items.length ≤ k) (h : ∀ x ∈ items, x.Sized k) :
    (list items).Sized k := by
  refine throughout_of_parts (fun _ hi => ?_) (fun _ hi => ?_) fun _ _ _ hf => nomatch hf
  · cases hi
    exact hlength
  · cases hi
    exact h

theorem sized_record {fields : Fields} (h : ∀ entry ∈ fields, entry.2.Sized k) : (record fields).Sized k := by
  refine throughout_of_parts (fun _ hi => nomatch hi) (fun _ hi => nomatch hi) fun fields name x hf hx => ?_
  cases hf
  obtain ⟨key, hmem⟩ := Fields.mem_of_get? hx
  exact h _ hmem

end Value

/-- The sequences that a scope binds have at most so many elements. -/
theorem Scope.Within.length_elements_le {k : Nat} {s : Scope} {n : Text} {items : List Value}
    (hs : s.Within (Value.Sized k)) (hi : (s.lookup n).elements? = some items) : items.length ≤ k := by
  rcases hs.lookup (Value.hereditary_sized k) n with hv | ⟨index, hindex⟩
  · exact hv _ .self items hi
  · rw [hindex] at hi
    cases hi

namespace Markup

/-! ## The bound -/

/-- A bound on the texts that are held while a tree is resolved, where loops run over at most `k` elements. -/
def holdBound (k : Nat) : Markup → Nat
  | done => 0
  | text _ rest => rest.holdBound k
  | place _ rest => 1 + rest.holdBound k
  | when _ yes rest => yes.holdBound k + rest.holdBound k
  -- an element may answer the marker between the branches
  | choice _ yes no rest => yes.holdBound k + (1 + no.holdBound k) + rest.holdBound k
  | each _ body rest => k * body.holdBound k + rest.holdBound k

variable {k : Nat}

theorem holdBound_append (b : Markup) : ∀ a : Markup, (a ++ b).holdBound k = a.holdBound k + b.holdBound k
  | done => (Nat.zero_add _).symm
  | text t rest => holdBound_append b rest
  | place n rest => by simp [holdBound, holdBound_append b rest, Nat.add_assoc]
  | when n yes rest => by simp [holdBound, holdBound_append b rest, Nat.add_assoc]
  | choice n yes no rest => by simp [holdBound, holdBound_append b rest, Nat.add_assoc]
  | each n body rest => by simp [holdBound, holdBound_append b rest, Nat.add_assoc]

theorem holdBound_choose_le (w : Bool) (holds : Text → Bool) : ∀ m : Markup,
    (m.choose w holds).holdBound k ≤ m.holdBound k
  | done => Nat.le_refl _
  | text _ rest => holdBound_choose_le w holds rest
  | place _ rest => Nat.add_le_add_left (holdBound_choose_le w holds rest) 1
  | when n yes rest => by
    have hy := holdBound_choose_le w holds yes
    have hr := holdBound_choose_le w holds rest
    cases w with
    | true => simp only [choose, holdBound, if_true]; omega
    | false => cases hh : holds n <;> simp [choose, holdBound, holdBound_append, hh] <;> omega
  | choice n yes no rest => by
    have hy := holdBound_choose_le w holds yes
    have hno := holdBound_choose_le w holds no
    have hr := holdBound_choose_le w holds rest
    cases w with
    | true => cases hh : holds n <;> simp [choose, holdBound, holdBound_append, hh] <;> omega
    | false => simp only [choose, holdBound, Bool.false_eq_true, if_false]; omega
  | each _ _ rest => Nat.add_le_add_left (holdBound_choose_le w holds rest) _

theorem holdBound_round_le (holds : Text → Bool) (m : Markup) : (m.round holds).holdBound k ≤ m.holdBound k :=
  Nat.le_trans (holdBound_choose_le false holds _) (holdBound_choose_le true holds m)

/-! ## Steps -/

/-- The resolution drops no texts, and those held after it come to no more than a number together with the bound of the
tree that it leaves. -/
def Spends (k bound : Nat) (x : Resolve Markup) (l : Ledger) : Prop := x.Leaves l fun m l' =>
  l.slots.length ≤ l'.slots.length ∧ l'.slots.length + m.holdBound k ≤ bound

theorem Spends.pure {bound : Nat} {m : Markup} {l : Ledger} (h : l.slots.length + m.holdBound k ≤ bound) :
    Spends k bound (Pure.pure m) l :=
  Resolve.Leaves.pure ⟨Nat.le_refl _, h⟩

theorem Spends.bind {x : Resolve Markup} {f : Markup → Resolve Markup} {l : Ledger} {here bound : Nat}
    (hx : Spends k here x l) (hf : ∀ m l', l.slots.length ≤ l'.slots.length →
      l'.slots.length + m.holdBound k ≤ here → Spends k bound (f m) l') : Spends k bound (x >>= f) l :=
  Resolve.Leaves.bind hx fun m l' ⟨hgrow, hle⟩ => (hf m l' hgrow hle).mono fun _ _ ⟨hgrow', hle'⟩ =>
    ⟨Nat.le_trans hgrow hgrow', hle'⟩

theorem spends_expandWith {f : Text → Markup → Resolve Markup}
    (hf : ∀ n body l, Spends k (l.slots.length + k * body.holdBound k) (f n body) l) :
    ∀ (m : Markup) (l : Ledger), Spends k (l.slots.length + m.holdBound k) (m.expandWith f) l
  | done, _ => .pure (Nat.le_refl _)
  | text _ rest, l => (spends_expandWith hf rest l).bind fun _ _ _ h => .pure h
  | place _ rest, l =>
    (spends_expandWith hf rest l).bind fun _ _ _ h => .pure (by simp only [holdBound]; omega)
  | when _ yes rest, l =>
    (spends_expandWith hf yes l).bind fun _ l₁ _ hy => (spends_expandWith hf rest l₁).bind fun _ _ _ hr =>
      .pure (by simp only [holdBound]; omega)
  | choice _ yes no rest, l =>
    (spends_expandWith hf yes l).bind fun _ l₁ _ hy => (spends_expandWith hf no l₁).bind fun _ l₂ _ hno =>
      (spends_expandWith hf rest l₂).bind fun _ _ _ hr => .pure (by simp only [holdBound]; omega)
  | each n body rest, l =>
    (hf n body l).bind fun _ l₁ _ hb => (spends_expandWith hf rest l₁).bind fun _ _ _ hr =>
      .pure (by simp only [holdBound, holdBound_append]; omega)

/-- An element holds one text at most when it answers a name. -/
theorem leaves_answer?_one (scope : Scope) (frame : Frame) (n : Text) (l : Ledger) :
    (scope.answer? frame n).Leaves l fun o l' =>
      l.slots.length ≤ l'.slots.length ∧ l'.slots.length + (if o.isSome then 0 else 1) ≤ l.slots.length + 1 := by
  have hheld : ∀ v : Value, (some <$> Resolve.holdValue v).Leaves l fun (o : Option Text) l' =>
      l.slots.length ≤ l'.slots.length ∧ l'.slots.length + (if o.isSome then 0 else 1) ≤ l.slots.length + 1 := by
    intro v
    refine (Resolve.leaves_holdValue v l).map ?_
    rintro _ l' ⟨u, -, rfl, hslots⟩
    simp [hslots]
  unfold Scope.answer?
  split
  · exact .pure (by simp)
  · split
    · exact .pure (by simp)
    · split
      · exact hheld _
      · split
        · exact hheld _
        · exact .pure (by simp)

theorem holdBound_filled (n : Text) (rest : Markup) (o : Option Text) :
    (filled n rest o).holdBound k = (if o.isSome then 0 else 1) + rest.holdBound k := by
  cases o
  · rfl
  · exact (Nat.zero_add _).symm

theorem holdBound_joined (n : Text) (yes no rest : Markup) (o : Option Text) : (joined n yes no rest o).holdBound k =
    yes.holdBound k + ((if o.isSome then 0 else 1) + no.holdBound k) + rest.holdBound k := by
  cases o
  · rfl
  · simp [joined, holdBound, holdBound_append]

/-- Filling holds one text at most for each placeholder, also in the bodies of loops, which stand for many of them. -/
theorem spends_fillWith (hk : 0 < k) {answer : Text → Resolve (Option Text)}
    (ha : ∀ n l, (answer n).Leaves l fun o l' =>
      l.slots.length ≤ l'.slots.length ∧ l'.slots.length + (if o.isSome then 0 else 1) ≤ l.slots.length + 1) :
    ∀ (m : Markup) (l : Ledger), Spends k (l.slots.length + m.holdBound k) (m.fillWith answer) l
  | done, _ => .pure (Nat.le_refl _)
  | text _ rest, l => (spends_fillWith hk ha rest l).bind fun _ _ _ h => .pure h
  | place n rest, l => Resolve.Leaves.bind (ha n l) fun _ l₁ ⟨hg, ho⟩ =>
    ((spends_fillWith hk ha rest l₁).bind fun _ _ _ hr => .pure (by
      rw [holdBound_filled, holdBound]
      omega)).mono fun _ _ ⟨hg', h⟩ => ⟨Nat.le_trans hg hg', h⟩
  | when _ yes rest, l =>
    (spends_fillWith hk ha yes l).bind fun _ l₁ _ hy => (spends_fillWith hk ha rest l₁).bind fun _ _ _ hr =>
      .pure (by simp only [holdBound]; omega)
  | choice _ yes no rest, l =>
    (spends_fillWith hk ha yes l).bind fun _ l₁ _ hy => Resolve.Leaves.bind (ha elseName l₁) fun _ l₂ ⟨hg, ho⟩ =>
      ((spends_fillWith hk ha no l₂).bind fun _ l₃ _ hno => (spends_fillWith hk ha rest l₃).bind fun _ _ _ hr =>
        .pure (by
          rw [holdBound_joined, holdBound]
          omega)).mono fun _ _ ⟨hg', h⟩ => ⟨Nat.le_trans hg hg', h⟩
  | each _ body rest, l =>
    (spends_fillWith hk ha body l).bind fun b l₁ hg hb => (spends_fillWith hk ha rest l₁).bind fun _ _ _ hr =>
      .pure (by
        -- what the body has spent once falls off its bound for each element
        have hbody : k * (l₁.slots.length - l.slots.length + b.holdBound k) ≤ k * body.holdBound k :=
          Nat.mul_le_mul_left k (by omega)
        have honce := Nat.le_mul_of_pos_left (l₁.slots.length - l.slots.length) hk
        rw [Nat.mul_add] at hbody
        simp only [holdBound]
        omega)

/-! ## Whole runs -/

variable {onTree : Scope → Markup → Resolve Markup}

section Loops

variable (hk : 0 < k) {s : Scope} (hs : s.Within (Value.Sized k)) {body : Markup}
  (hbody : ∀ s l, s.Within (Value.Sized k) → Spends k (l.slots.length + body.holdBound k) (onTree s body) l)

include hk hs hbody

theorem spends_elements : ∀ (index : Nat) (items : List Value) (l : Ledger), (∀ item ∈ items, item.Sized k) →
    Spends k (l.slots.length + items.length * body.holdBound k) (resolveElements onTree s body index items) l
  | _, [], _, _ => .pure (Nat.le_add_right _ _)
  | index, item :: items, l, hitems => by
    have hitem : item.Sized k := hitems item (by simp)
    have hhere : Spends k (l.slots.length + body.holdBound k) (resolveElement onTree s body ⟨index, item⟩) l :=
      (hbody _ l (hs.enter index hitem)).bind fun m l' _ h =>
        Resolve.Leaves.mono (spends_fillWith hk (fun n l => leaves_answer?_one _ _ n l) m l') fun _ _ ⟨hg, h'⟩ =>
          ⟨hg, Nat.le_trans h' h⟩
    refine hhere.bind fun m l' _ h => ?_
    refine (spends_elements (index + 1) items l' fun x hx => hitems x (by simp [hx])).bind fun m' l'' _ h' => ?_
    exact .pure (by rw [holdBound_append, List.length_cons, Nat.succ_mul]; omega)

theorem spends_loop (n : Text) (l : Ledger) :
    Spends k (l.slots.length + k * body.holdBound k) (resolveLoop onTree s n body) l := by
  rw [resolveLoop]
  cases hitems : (s.lookup n).elements? with
  | none => exact .pure (Nat.le_add_right _ _)
  | some items =>
    have hcount : items.length * body.holdBound k ≤ k * body.holdBound k :=
      Nat.mul_le_mul_right _ (hs.length_elements_le hitems)
    refine Resolve.Leaves.mono (spends_elements hk hs hbody 0 items l
      (hs.elements (Value.hereditary_sized k) hitems)) fun _ _ h => ⟨h.1, ?_⟩
    exact Nat.le_trans h.2 (Nat.add_le_add_left hcount _)

end Loops

theorem spends_settle {step : Markup → Resolve Markup}
    (h : ∀ m l, Spends k (l.slots.length + m.holdBound k) (step m) l) :
    ∀ (budget : Nat) (m : Markup) (l : Ledger), Spends k (l.slots.length + m.holdBound k) (settle step budget m) l
  | 0, m, l => by
    intro m' l' hrun
    cases hrun
    exact ⟨Nat.le_refl _, Nat.le_refl _⟩
  | budget + 1, m, l => (h m l).bind fun m' l' _ hle => by
    split
    · exact .pure hle
    · exact (spends_settle h budget m' l').mono fun _ _ ⟨hg, h'⟩ => ⟨hg, Nat.le_trans h' hle⟩

/-- **Resolving spends the bound** of a tree, whatever the budget. -/
theorem spends_resolve (hk : 0 < k) (budget : Nat) : ∀ (depth : Nat) (s : Scope) (m : Markup) (l : Ledger),
    s.Within (Value.Sized k) → Spends k (l.slots.length + m.holdBound k) (resolve budget depth s m) l
  | 0, _, _, _, _ => fun _ _ hrun => by cases hrun
  | depth + 1, s, m, l, hs =>
    spends_settle (fun m l => Resolve.Leaves.mono (spends_expandWith (fun n body l =>
        spends_loop hk hs (fun s l hs => spends_resolve hk budget depth s body l hs) n l) (m.round s.holds) l)
      fun _ _ ⟨hg, h⟩ => ⟨hg, Nat.le_trans h (Nat.add_le_add_left (holdBound_round_le s.holds m) _)⟩) budget m l

end Markup

open Markup in
/-- A template holds no more texts than its bound, where no sequence has more elements than the bound counts on. -/
theorem holds_le_holdBound {k budget : Nat} (hk : 0 < k) {m : Markup} (hm : m.WellFormed) {vars : Fields}
    (hvars : ∀ name v, vars.get? name = some v → v.Sized k) {resolved : Text} {ledger : Ledger}
    (h : (resolveDirectives budget m.print vars).run .empty = .ok resolved ledger) :
    ledger.slots.length ≤ m.holdBound k := by
  rw [resolveDirectives_print hm.braceFree] at h
  obtain ⟨m', hrun, -⟩ := Resolve.run_map_eq_ok h
  obtain ⟨-, hle⟩ := spends_resolve hk budget _ (.outer vars) m .empty (.outer hvars) m' ledger hrun
  have hnone : Ledger.empty.slots.length = 0 := rfl
  omega

end Stencil
