import Stencil.Proofs.Directive.Settling
import Stencil.Proofs.Value.Parts

/-!
# Which resolutions cannot fail

* A hereditary condition passes from the values of a scope to all that the scope shows (`Scope.Within`).
* The resolution of a tree fails only where a value in its scope cannot be held, if the allowance has more levels than
  loops nest in the tree (`avoids_resolve`).
-/

namespace Stencil

/-! ## What a scope shows -/

namespace Scope

/-- All that the scope is made of meets a condition. -/
structure Within (p : Value → Prop) (s : Scope) : Prop where
  frames : ∀ f ∈ s.frames, p f.item
  vars : ∀ name v, s.vars.get? name = some v → p v

variable {p : Value → Prop} {s : Scope}

theorem Within.outer {vars : Fields} (h : ∀ name v, vars.get? name = some v → p v) : (outer vars).Within p where
  frames := by simp [Scope.outer]
  vars := h

theorem Within.enter (hs : s.Within p) (index : Nat) {item : Value} (h : p item) : (s.enter index item).Within p where
  frames := by
    intro f hf
    rcases List.mem_cons.1 hf with rfl | hf
    · exact h
    · exact hs.frames f hf
  vars := hs.vars

theorem field_frame (hp : Value.Hereditary p) {f : Frame} (hf : p f.item) {name : Text} {v : Value}
    (h : f.fields.get? name = some v) : p v := by
  unfold Frame.fields at h
  cases hfields : f.item.fields? with
  | some fields =>
    rw [hfields] at h
    exact hp.field hf hfields h
  | none =>
    rw [hfields] at h
    cases h

/-- A name shows a value of the scope, or an index. -/
theorem getFrom?_within (hp : Value.Hereditary p) {vars : Fields} (hv : ∀ name v, vars.get? name = some v → p v)
    {name : Text} {v : Value} : ∀ {frames : List Frame}, (∀ f ∈ frames, p f.item) →
      getFrom? vars name frames = some v → p v ∨ ∃ n : Nat, v = .int n
  | [], _, h => .inl (hv name v h)
  | f :: frames, hf, h => by
    rw [getFrom?] at h
    split at h
    · cases h
      exact .inl (hf f (by simp))
    · split at h
      · cases h
        exact .inr ⟨f.index, rfl⟩
      · split at h
        · rename_i u hu
          cases h
          exact .inl (field_frame hp (hf f (by simp)) hu)
        · exact getFrom?_within hp hv (fun g hg => hf g (by simp [hg])) h

theorem field_within (hp : Value.Hereditary p) {o : Option Value} (ho : ∀ v ∈ o, p v ∨ ∃ n : Nat, v = .int n)
    (field : Text) : p (((o.bind Value.fields?).bind fun fields => fields.get? field).getD .null) := by
  cases o with
  | none => exact hp.null
  | some v =>
    rcases ho v rfl with hv | ⟨n, rfl⟩
    · rw [Option.bind_some]
      cases hfields : v.fields? with
      | none => exact hp.null
      | some fields =>
        rw [Option.bind_some]
        cases hx : fields.get? field with
        | none => exact hp.null
        | some x => exact hp.field hv hfields hx
    · exact hp.null

theorem Within.lookup (hp : Value.Hereditary p) (hs : s.Within p) (name : Text) :
    p (s.lookup name) ∨ ∃ n : Nat, s.lookup name = .int n := by
  have hget : ∀ name, ∀ v ∈ s.get? name, p v ∨ ∃ n : Nat, v = .int n := fun _ _ h =>
    getFrom?_within hp hs.vars hs.frames h
  unfold Scope.lookup
  split
  · exact .inl (field_within hp (hget thisName) _)
  · cases h : s.get? name with
    | none => exact .inl hp.null
    | some v => exact hget name v h

/-- The elements of a loop meet the condition. -/
theorem Within.elements (hp : Value.Hereditary p) (hs : s.Within p) {name : Text} {items : List Value}
    (h : (s.lookup name).elements? = some items) : ∀ item ∈ items, p item := by
  intro item hitem
  rcases hs.lookup hp name with hv | ⟨n, hn⟩
  · exact hp.element hv h hitem
  · rw [hn] at h
    cases h

theorem get?_this (s : Scope) (index : Nat) (item : Value) : (s.enter index item).get? thisName = some item := rfl

/-- Inside a loop, the element and its fields meet the condition. -/
theorem Within.this (hp : Value.Hereditary p) {index : Nat} {item : Value} (hi : p item) {name : Text}
    (hn : name = thisName ∨ thisPoint.isPrefixOf name) : p ((s.enter index item).lookup name) := by
  have hfield : ∀ field, p (((((s.enter index item).get? thisName).bind Value.fields?).bind
      fun fields => fields.get? field).getD .null) := field_within hp fun v hv => by
    rw [get?_this] at hv
    exact .inl (Option.some.inj hv ▸ hi)
  rcases hn with rfl | hn
  · exact hi
  · rw [Scope.lookup, Text.after?, if_pos hn]
    exact hfield _

end Scope

/-! ## Resolving without faults -/

namespace Markup

open Resolve (Avoids Ensures)

variable {p : Value → Prop} {bad : Fault → Prop}

section

variable (hp : Value.Hereditary p) (hold : ∀ v, p v → (Resolve.holdValue v).Avoids bad)

include hp hold

theorem avoids_answer? (scope : Scope) (frame : Frame) (hf : p frame.item) (name : Text) :
    ((scope.enter frame.index frame.item).answer? frame name).Avoids bad := by
  unfold Scope.answer?
  split
  · exact .pure _
  · split
    · exact .pure _
    · split
      · rename_i hthis
        exact (hold _ (Scope.Within.this hp hf hthis)).map _
      · split
        · rename_i v hv
          exact (hold v (Scope.field_frame hp hf hv)).map _
        · exact .pure _

end

theorem avoids_fillWith {answer : Text → Resolve (Option Text)} (ha : ∀ n, (answer n).Avoids bad) :
    ∀ m : Markup, (m.fillWith answer).Avoids bad
  | done => .pure _
  | text _ rest => (avoids_fillWith ha rest).bind (.true _) fun _ _ => .pure _
  | place n rest => (ha n).bind (.true _) fun _ _ => (avoids_fillWith ha rest).bind (.true _) fun _ _ => .pure _
  | when _ yes rest =>
    (avoids_fillWith ha yes).bind (.true _) fun _ _ => (avoids_fillWith ha rest).bind (.true _) fun _ _ => .pure _
  | choice _ yes no rest =>
    (avoids_fillWith ha yes).bind (.true _) fun _ _ => (ha elseName).bind (.true _) fun _ _ =>
      (avoids_fillWith ha no).bind (.true _) fun _ _ => (avoids_fillWith ha rest).bind (.true _) fun _ _ => .pure _
  | each _ body rest =>
    (avoids_fillWith ha body).bind (.true _) fun _ _ => (avoids_fillWith ha rest).bind (.true _) fun _ _ => .pure _

theorem avoids_expandWith {r : Markup → Prop} {f : Text → Markup → Resolve Markup}
    (hf : ∀ n body, r body → (f n body).Avoids bad) : ∀ m : Markup, m.Bodies r → (m.expandWith f).Avoids bad
  | done, _ => .pure _
  | text _ rest, hr => (avoids_expandWith hf rest hr).bind (.true _) fun _ _ => .pure _
  | place _ rest, hr => (avoids_expandWith hf rest hr).bind (.true _) fun _ _ => .pure _
  | when _ yes rest, ⟨hy, hr⟩ =>
    (avoids_expandWith hf yes hy).bind (.true _) fun _ _ =>
      (avoids_expandWith hf rest hr).bind (.true _) fun _ _ => .pure _
  | choice _ yes no rest, ⟨hy, hno, hr⟩ =>
    (avoids_expandWith hf yes hy).bind (.true _) fun _ _ => (avoids_expandWith hf no hno).bind (.true _) fun _ _ =>
      (avoids_expandWith hf rest hr).bind (.true _) fun _ _ => .pure _
  | each n body rest, ⟨hb, hr⟩ =>
    (hf n body hb).bind (.true _) fun _ _ => (avoids_expandWith hf rest hr).bind (.true _) fun _ _ => .pure _

theorem avoids_settle {q : Markup → Prop} {step : Markup → Resolve Markup}
    (h : ∀ m, q m → (step m).Avoids bad ∧ (step m).Ensures q) :
    ∀ (budget : Nat) {m : Markup}, q m → (settle step budget m).Avoids bad
  | 0, _, _ => fun _ _ _ hrun => by cases hrun
  | budget + 1, m, hm => by
    refine (h m hm).1.bind (h m hm).2 fun m' hm' => ?_
    split
    · exact .pure _
    · exact avoids_settle h budget hm'

section

variable (hp : Value.Hereditary p) (hold : ∀ v, p v → (Resolve.holdValue v).Avoids bad)

include hp hold

theorem avoids_elements {onTree : Scope → Markup → Resolve Markup} {body : Markup} {scope : Scope}
    (hs : scope.Within p) (hk : ∀ s, s.Within p → (onTree s body).Avoids bad) :
    ∀ (index : Nat) (items : List Value), (∀ item ∈ items, p item) →
      (resolveElements onTree scope body index items).Avoids bad
  | _, [], _ => .pure _
  | index, item :: items, hi => by
    have hitem := hi item (by simp)
    refine Avoids.bind ?_ (.true _) fun _ _ =>
      (avoids_elements hs hk (index + 1) items fun x hx => hi x (by simp [hx])).bind (.true _) fun _ _ => .pure _
    exact (hk _ (hs.enter index hitem)).bind (.true _) fun _ _ =>
      avoids_fillWith (fun n => avoids_answer? hp hold scope ⟨index, item⟩ hitem n) _

theorem avoids_loop {onTree : Scope → Markup → Resolve Markup} {body : Markup} {scope : Scope}
    (hs : scope.Within p) (hk : ∀ s, s.Within p → (onTree s body).Avoids bad) (n : Text) :
    (resolveLoop onTree scope n body).Avoids bad := by
  unfold resolveLoop
  split
  · rename_i items hitems
    exact avoids_elements hp hold hs hk 0 items (hs.elements hp hitems)
  · exact .pure _

/-- **Levels and values are all that a resolution can fail for.** -/
theorem avoids_resolve {budget : Nat} (hb : 0 < budget) : ∀ (depth : Nat) (s : Scope) (m : Markup), s.Within p →
    m.loopDepth < depth → (resolve budget depth s m).Avoids bad
  | 0, _, _, _, hd => absurd hd (Nat.not_lt_zero _)
  | depth + 1, s, m, hs, hd => by
    refine avoids_settle (q := fun m => m.loopDepth ≤ depth) (fun m hm => ⟨?_, fun l => ?_⟩) budget (by omega)
    · refine avoids_expandWith (fun n body hbody => ?_) _ ((bodies_loopDepth hm).round s.holds)
      exact avoids_loop hp hold hs (fun s' hs' => avoids_resolve hb depth s' body hs' hbody) n
    · refine (ensures_loopFree_pass (ensures_loopFree_resolve hb depth) s m l).mono fun m' _ h => ?_
      simp [h.loopDepth_eq]

end

/-- With enough levels only a value that does not print stops a resolution. -/
theorem avoids_resolve_of_value {bad : Fault → Prop} (hbad : ∀ why, ¬bad (.value why)) {budget : Nat} (hb : 0 < budget)
    {depth : Nat} {m : Markup} (hd : m.loopDepth < depth) (vars : Fields) :
    (resolve budget depth (.outer vars) m).Avoids bad := by
  have hall : Value.Hereditary fun _ => True := by constructor <;> intros <;> trivial
  exact avoids_resolve hall (fun _ _ => Resolve.avoids_holdValue fun why _ => hbad why) hb depth (.outer vars) m
    (.outer fun _ _ _ => trivial) hd

end Markup

end Stencil
