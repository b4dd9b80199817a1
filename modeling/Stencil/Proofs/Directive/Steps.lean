import Stencil.Directive.Passes
import Stencil.Proofs.Directive.Effects
import Stencil.Proofs.Markup.Rewriting
import Stencil.Proofs.Slots.Tokens

/-!
# Resolving trees

* **Resolving a tree** (`Markup.resolve`): the passes of a resolution as steps on trees. Each loop body is resolved as
  a tree and then filled with the texts that its element answers with (`Scope.answer?`).
* Every step keeps the trees formed (`keepsFormed_resolve`), for each condition on texts that tokens of held texts and
  digits meet, and that holding more texts does not break (`Slots.Admits`).
-/

namespace Stencil

/-! ## Answers of an element -/

/-- The text that an element answers a name with. Reserved names and names that it does not know have no answer. -/
def Scope.answer? (scope : Scope) (frame : Frame) (name : Text) : Resolve (Option Text) :=
  if reservedNames.contains name then return none
  else if name = indexName then return some (Text.ofNat frame.index)
  else if name = thisName ∨ thisPoint.isPrefixOf name then some <$> Resolve.holdValue (scope.lookup name)
  else match frame.fields.get? name with
    | some v => some <$> Resolve.holdValue v
    | none => return none

/-! ## Steps on trees -/

namespace Markup

/-- The tree of a loop body for one element, given how trees are resolved in a scope. -/
def resolveElement (resolve : Scope → Markup → Resolve Markup) (scope : Scope) (body : Markup) (frame : Frame) :
    Resolve Markup := do
  let inner := scope.enter frame.index frame.item
  let resolved ← resolve inner body
  resolved.fillWith (inner.answer? frame)

/-- The trees of a loop body for the elements from an index on, one after the other. -/
def resolveElements (resolve : Scope → Markup → Resolve Markup) (scope : Scope) (body : Markup) :
    Nat → List Value → Resolve Markup
  | _, [] => return done
  | index, item :: items => do
    let here ← resolveElement resolve scope body ⟨index, item⟩
    return here ++ (← resolveElements resolve scope body (index + 1) items)

/-- The tree of a loop. -/
def resolveLoop (resolve : Scope → Markup → Resolve Markup) (scope : Scope) (name : Text) (body : Markup) :
    Resolve Markup :=
  match (scope.lookup name).elements? with
  | some items => resolveElements resolve scope body 0 items
  | none => return done

/-- Both turns over the conditionals of a tree. -/
def round (holds : Text → Bool) (m : Markup) : Markup := (m.choose true holds).choose false holds

/-- One pass over a tree. -/
def pass (resolve : Scope → Markup → Resolve Markup) (scope : Scope) (m : Markup) : Resolve Markup :=
  (m.round scope.holds).expandWith (resolveLoop resolve scope)

/-- Repeats a step until the written form settles or the budget is spent. -/
def settle (step : Markup → Resolve Markup) : Nat → Markup → Resolve Markup
  | 0, m => do
    Resolve.noteExhausted
    return m
  | budget + 1, m => do
    let resolved ← step m
    if resolved.print = m.print then return resolved else settle step budget resolved

/-- Passes over a tree, each loop below it with the same budget. -/
def resolve (budget : Nat) : Nat → Scope → Markup → Resolve Markup
  | 0, _, _ => throw .tooDeep
  | depth + 1, scope, m => settle (pass (resolve budget depth) scope) budget m

/-! ## Steps keep trees formed -/

/-- The resolution holds texts besides those held, and its tree is formed with them. -/
def LeavesFormed (p : Slots → Text → Prop) (x : Resolve Markup) (l : Ledger) : Prop :=
  x.Leaves l fun m l' => l.slots <+: l'.slots ∧ m.Formed (p l'.slots)

/-- Resolving keeps trees formed. -/
def KeepsFormed (p : Slots → Text → Prop) (onTree : Scope → Markup → Resolve Markup) : Prop :=
  ∀ s m l, m.Formed (p l.slots) → LeavesFormed p (onTree s m) l

theorem LeavesFormed.pure {p : Slots → Text → Prop} {m : Markup} {l : Ledger} (h : m.Formed (p l.slots)) :
    LeavesFormed p (Pure.pure m) l :=
  Resolve.Leaves.pure ⟨List.prefix_refl _, h⟩

theorem Formed.choose {p : Text → Prop} (w : Bool) (holds : Text → Bool) :
    ∀ {m : Markup}, m.Formed p → (m.choose w holds).Formed p
  | done, _ => trivial
  | text _ _, ⟨ht, hr⟩ => ⟨ht, hr.choose w holds⟩
  | place _ _, ⟨hn, he, hr⟩ => ⟨hn, he, hr.choose w holds⟩
  | when n yes rest, ⟨hn, hy, hr⟩ => by
    cases w with
    | true => exact ⟨hn, hy.choose true holds, hr.choose true holds⟩
    | false =>
      refine Formed.append ?_ (hr.choose false holds)
      split
      · exact hy
      · trivial
  | choice n yes no rest, ⟨hn, hy, hno, hr⟩ => by
    cases w with
    | true =>
      refine Formed.append ?_ (hr.choose true holds)
      split
      · exact hy
      · exact hno
    | false => exact ⟨hn, hy.choose false holds, hno.choose false holds, hr.choose false holds⟩
  | each _ _ _, ⟨hn, hb, hr⟩ => ⟨hn, hb, hr.choose w holds⟩

theorem Formed.round {p : Text → Prop} {m : Markup} (hm : m.Formed p) (holds : Text → Bool) :
    (m.round holds).Formed p := (hm.choose true holds).choose false holds

/-- The turn over the conditionals with one branch stays inside the second branches of the others. -/
theorem Loose.choose_false {p : Text → Prop} {lvl : Branch} {m : Markup} (holds : Text → Bool) (hm : m.Loose p lvl) :
    (m.choose false holds).Loose p lvl := by
  induction hm with
  | formed h => exact .formed (h.choose false holds)
  | append _ _ iha ihb =>
    rw [choose_append]
    exact .append iha ihb
  | stray ht => exact .stray ht
  | choice hn _ _ ihy ihno => exact .choice hn ihy ihno

/-- The turn over the conditionals with two branches brings what stood in a branch outside. -/
theorem Loose.choose_true {p : Text → Prop} {lvl : Branch} {m : Markup} (holds : Text → Bool) (hm : m.Loose p lvl) :
    (m.choose true holds).Loose p .outside := by
  induction hm with
  | formed h => exact .formed (h.choose true holds)
  | append _ _ iha ihb =>
    rw [choose_append]
    exact .append iha ihb
  | stray ht => exact (Loose.stray ht).outside
  | @choice l n yes no _ hy hno _ _ =>
    simp only [choose, if_true, append_done]
    split
    · exact hy.outside
    · exact hno.outside

theorem Loose.round {p : Text → Prop} {lvl : Branch} {m : Markup} (hm : m.Loose p lvl) (holds : Text → Bool) :
    (m.round holds).Loose p .outside := (hm.choose_true holds).choose_false holds

/-- One resolved tree after another. -/
theorem LeavesFormed.bind {p : Slots → Text → Prop} {x : Resolve Markup} {f : Markup → Resolve Markup} {l : Ledger}
    (hx : LeavesFormed p x l)
    (hf : ∀ m l', l.slots <+: l'.slots → m.Formed (p l'.slots) → LeavesFormed p (f m) l') :
    LeavesFormed p (x >>= f) l :=
  Resolve.Leaves.bind_grow hx hf

theorem formed_filled {p : Text → Prop} {n : Text} {rest : Markup} {o : Option Text} (hn : IsName n)
    (he : n ≠ elseName) (hr : rest.Formed p) (ho : ∀ t ∈ o, p t) : (filled n rest o).Formed p := by
  cases o with
  | some t => exact ⟨ho t rfl, hr⟩
  | none => exact ⟨hn, he, hr⟩

theorem formed_joined {p : Text → Prop} {n : Text} {yes no rest : Markup} {o : Option Text} (hn : IsName n)
    (hy : yes.Formed p) (hno : no.Formed p) (hr : rest.Formed p) (ho : ∀ t ∈ o, p t) :
    (joined n yes no rest o).Formed p := by
  cases o with
  | some t => exact ⟨hn, hy.append ⟨ho t rfl, hno⟩, hr⟩
  | none => exact ⟨hn, hy, hno, hr⟩

theorem LeavesFormed.answered {p : Slots → Text → Prop} {a : Resolve (Option Text)}
    {f : Option Text → Resolve Markup} {l : Ledger}
    (ha : a.Leaves l fun o l' => l.slots <+: l'.slots ∧ ∀ t ∈ o, p l'.slots t)
    (hf : ∀ o l', l.slots <+: l'.slots → (∀ t ∈ o, p l'.slots t) → LeavesFormed p (f o) l') :
    LeavesFormed p (a >>= f) l :=
  Resolve.Leaves.bind_grow ha hf

section Keeping

variable {p : Slots → Text → Prop} (hp : Slots.Admits p)

include hp

theorem Formed.grow {s s' : Slots} (hs : s <+: s') {m : Markup} (hm : m.Formed (p s)) : m.Formed (p s') :=
  hm.mono fun _ => hp.grow hs

theorem leaves_answer? (scope : Scope) (frame : Frame) (n : Text) (l : Ledger) :
    (scope.answer? frame n).Leaves l fun o l' => l.slots <+: l'.slots ∧ ∀ t ∈ o, p l'.slots t := by
  have hheld : ∀ v : Value, (some <$> Resolve.holdValue v).Leaves l fun (o : Option Text) l' =>
      l.slots <+: l'.slots ∧ ∀ t ∈ o, p l'.slots t := by
    intro v
    refine (Resolve.leaves_holdValue v l).map ?_
    rintro _ l' ⟨u, -, rfl, hslots⟩
    refine ⟨hslots ▸ List.prefix_append _ _, fun t ht => ?_⟩
    cases ht
    exact hp.token (by simp [hslots])
  unfold Scope.answer?
  split
  · exact .pure ⟨List.prefix_refl _, by simp⟩
  · split
    · refine .pure ⟨List.prefix_refl _, fun t ht => ?_⟩
      cases ht
      exact hp.digits _ _
    · split
      · exact hheld _
      · split
        · exact hheld _
        · exact .pure ⟨List.prefix_refl _, by simp⟩

theorem leavesFormed_expandWith {f : Text → Markup → Resolve Markup}
    (hf : ∀ n body l, body.Formed (p l.slots) → LeavesFormed p (f n body) l) :
    ∀ (m : Markup) (l : Ledger), m.Formed (p l.slots) → LeavesFormed p (m.expandWith f) l
  | done, _, _ => .pure trivial
  | text _ rest, l, ⟨ht, hr⟩ => (leavesFormed_expandWith hf rest l hr).bind fun _ _ hg h => .pure ⟨hp.grow hg ht, h⟩
  | place _ rest, l, ⟨hn, he, hr⟩ => (leavesFormed_expandWith hf rest l hr).bind fun _ _ _ h => .pure ⟨hn, he, h⟩
  | when _ yes rest, l, ⟨hn, hy, hr⟩ =>
    (leavesFormed_expandWith hf yes l hy).bind fun _ _ hg hy' =>
      (leavesFormed_expandWith hf rest _ (hr.grow hp hg)).bind fun _ _ hg' hr' => .pure ⟨hn, hy'.grow hp hg', hr'⟩
  | choice _ yes no rest, l, ⟨hn, hy, hno, hr⟩ =>
    (leavesFormed_expandWith hf yes l hy).bind fun _ _ hg hy' =>
      (leavesFormed_expandWith hf no _ (hno.grow hp hg)).bind fun _ _ hg' hno' =>
        (leavesFormed_expandWith hf rest _ (hr.grow hp (hg.trans hg'))).bind fun _ _ hg'' hr' =>
          .pure ⟨hn, hy'.grow hp (hg'.trans hg''), hno'.grow hp hg'', hr'⟩
  | each n body rest, l, ⟨_, hb, hr⟩ =>
    (hf n body l hb).bind fun _ _ hg h =>
      (leavesFormed_expandWith hf rest _ (hr.grow hp hg)).bind fun _ _ hg' hr' => .pure ((h.grow hp hg').append hr')

theorem leavesFormed_fillWith {answer : Text → Resolve (Option Text)}
    (ha : ∀ n l, (answer n).Leaves l fun o l' => l.slots <+: l'.slots ∧ ∀ t ∈ o, p l'.slots t) :
    ∀ (m : Markup) (l : Ledger), m.Formed (p l.slots) → LeavesFormed p (m.fillWith answer) l
  | done, _, _ => .pure trivial
  | text _ rest, l, ⟨ht, hr⟩ => (leavesFormed_fillWith ha rest l hr).bind fun _ _ hg h => .pure ⟨hp.grow hg ht, h⟩
  | place n rest, l, ⟨hn, he, hr⟩ =>
    .answered (ha n l) fun _ _ hg ho => (leavesFormed_fillWith ha rest _ (hr.grow hp hg)).bind fun _ _ hg' hr' =>
      .pure (formed_filled hn he hr' fun t ht => hp.grow hg' (ho t ht))
  | when _ yes rest, l, ⟨hn, hy, hr⟩ =>
    (leavesFormed_fillWith ha yes l hy).bind fun _ _ hg hy' =>
      (leavesFormed_fillWith ha rest _ (hr.grow hp hg)).bind fun _ _ hg' hr' => .pure ⟨hn, hy'.grow hp hg', hr'⟩
  | choice _ yes no rest, l, ⟨hn, hy, hno, hr⟩ =>
    (leavesFormed_fillWith ha yes l hy).bind fun _ _ hg hy' =>
      .answered (ha elseName _) fun _ _ hg₁ ho =>
        (leavesFormed_fillWith ha no _ (hno.grow hp (hg.trans hg₁))).bind fun _ _ hg₂ hno' =>
          (leavesFormed_fillWith ha rest _ (hr.grow hp ((hg.trans hg₁).trans hg₂))).bind fun _ _ hg₃ hr' =>
            .pure (formed_joined hn (hy'.grow hp ((hg₁.trans hg₂).trans hg₃)) (hno'.grow hp hg₃) hr'
              fun t ht => hp.grow (hg₂.trans hg₃) (ho t ht))
  | each _ body rest, l, ⟨hn, hb, hr⟩ =>
    (leavesFormed_fillWith ha body l hb).bind fun _ _ hg hb' =>
      (leavesFormed_fillWith ha rest _ (hr.grow hp hg)).bind fun _ _ hg' hr' => .pure ⟨hn, hb'.grow hp hg', hr'⟩

variable {onTree : Scope → Markup → Resolve Markup}

theorem leavesFormed_element (hk : KeepsFormed p onTree) (scope : Scope) {body : Markup} (frame : Frame) {l : Ledger}
    (hb : body.Formed (p l.slots)) : LeavesFormed p (resolveElement onTree scope body frame) l :=
  (hk _ _ l hb).bind fun _ _ _ h => leavesFormed_fillWith hp (fun n => leaves_answer? hp _ frame n) _ _ h

theorem leavesFormed_elements (hk : KeepsFormed p onTree) (scope : Scope) {body : Markup} :
    ∀ (index : Nat) (items : List Value) (l : Ledger), body.Formed (p l.slots) →
      LeavesFormed p (resolveElements onTree scope body index items) l
  | _, [], _, _ => .pure trivial
  | index, item :: items, _, hb =>
    (leavesFormed_element hp hk scope ⟨index, item⟩ hb).bind fun _ _ hg h =>
      (leavesFormed_elements hk scope (index + 1) items _ (hb.grow hp hg)).bind fun _ _ hg' h' =>
        .pure ((h.grow hp hg').append h')

theorem leavesFormed_loop (hk : KeepsFormed p onTree) (scope : Scope) (n : Text) {body : Markup} {l : Ledger}
    (hb : body.Formed (p l.slots)) : LeavesFormed p (resolveLoop onTree scope n body) l := by
  unfold resolveLoop
  split
  · exact leavesFormed_elements hp hk scope 0 _ l hb
  · exact .pure trivial

theorem keepsFormed_pass (hk : KeepsFormed p onTree) : KeepsFormed p (pass onTree) := fun scope _ l hm =>
  leavesFormed_expandWith hp (fun n _ _ hb => leavesFormed_loop hp hk scope n hb) _ l (hm.round scope.holds)

omit hp in
theorem leavesFormed_settle {step : Markup → Resolve Markup}
    (hk : ∀ m l, m.Formed (p l.slots) → LeavesFormed p (step m) l) :
    ∀ (budget : Nat) (m : Markup) (l : Ledger), m.Formed (p l.slots) → LeavesFormed p (settle step budget m) l
  | 0, m, l, hm => by
    intro m' l' hrun
    cases hrun
    exact ⟨List.prefix_refl _, hm⟩
  | budget + 1, m, l, hm => by
    refine (hk m l hm).bind fun m' l' _ hm' => ?_
    split
    · exact .pure hm'
    · exact leavesFormed_settle hk budget m' l' hm'

/-- **Resolving keeps trees formed**, whatever the budget. -/
theorem keepsFormed_resolve (budget : Nat) : ∀ depth, KeepsFormed p (resolve budget depth)
  | 0 => fun _ _ _ _ _ _ hrun => by cases hrun
  | depth + 1 => fun s m l hm =>
    leavesFormed_settle (keepsFormed_pass hp (keepsFormed_resolve budget depth) s) budget m l hm

end Keeping

end Markup

end Stencil
