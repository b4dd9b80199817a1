import Stencil.Directive.Passes
import Stencil.Proofs.Results

/-!
# Reasoning about resolutions

* **Outcomes** (`Resolve.Leaves`): what holds of the result of a resolution and of the ledger that it leaves, if it
  succeeds. A condition that needs no ledger (`Resolve.Ensures`) is one that a later step may assume
  (`bind_congr_of_ensures`).
* **Agreement** (`Resolve.Follows`): a resolution gives the results of another one that meet a condition, and holds the
  same texts. The counts of spent budgets may differ.
* **Faults** (`Resolve.Avoids`): a resolution that never fails in certain ways, from whatever ledger it starts.
* **Success** (`Resolve.SucceedsIff`): a resolution that succeeds exactly under a condition, whatever is held before.
-/

namespace Stencil.Resolve

variable {α β : Type}

/-! ## Running -/

theorem run_bind_ok {x : Resolve α} {f : α → Resolve β} {l l' : Ledger} {a : α} (h : x.run l = .ok a l') :
    (x >>= f).run l = (f a).run l' := by
  rw [EStateM.run_bind, h]

theorem run_bind_error {x : Resolve α} {l l' : Ledger} {fault : Fault} (h : x.run l = .error fault l')
    (f : α → Resolve β) : (x >>= f).run l = .error fault l' := by
  rw [EStateM.run_bind, h]

/-- A resolution that is made of two succeeds only if both do. -/
theorem run_bind_eq_ok {x : Resolve α} {f : α → Resolve β} {l l'' : Ledger} {b : β}
    (h : (x >>= f).run l = .ok b l'') : ∃ a l', x.run l = .ok a l' ∧ (f a).run l' = .ok b l'' := by
  rw [EStateM.run_bind] at h
  split at h
  · rename_i a l' hx
    exact ⟨a, l', hx, h⟩
  · cases h

theorem run_bind_eq_error {x : Resolve α} {f : α → Resolve β} {l l'' : Ledger} {fault : Fault}
    (h : (x >>= f).run l = .error fault l'') :
    x.run l = .error fault l'' ∨ ∃ a l', x.run l = .ok a l' ∧ (f a).run l' = .error fault l'' := by
  rw [EStateM.run_bind] at h
  split at h
  · rename_i a l' hx
    exact .inr ⟨a, l', hx, h⟩
  · rename_i hx
    cases h
    exact .inl hx

theorem run_map (x : Resolve α) (f : α → β) (l : Ledger) :
    (f <$> x).run l = match x.run l with
      | .ok a l' => .ok (f a) l'
      | .error fault l' => .error fault l' := by
  rw [← bind_pure_comp, EStateM.run_bind]
  cases x.run l <;> rfl

theorem run_map_eq_ok {x : Resolve α} {f : α → β} {l l' : Ledger} {b : β} (h : (f <$> x).run l = .ok b l') :
    ∃ a, x.run l = .ok a l' ∧ f a = b := by
  rw [run_map] at h
  split at h
  · rename_i a l₁ hx
    cases h
    exact ⟨a, hx, rfl⟩
  · cases h

theorem run_map_eq_error {x : Resolve α} {f : α → β} {l l' : Ledger} {fault : Fault}
    (h : (f <$> x).run l = .error fault l') : x.run l = .error fault l' := by
  rw [run_map] at h
  split at h
  · cases h
  · rename_i hx
    cases h
    exact hx

/-- A resolution on its own succeeds if it succeeds where nothing is held, and its tokens can be read. -/
theorem alone_eq_ok_iff {x : Resolve Text} {r : Text} :
    x.alone = .ok r ↔ ∃ t l, x.run .empty = .ok t l ∧ l.slots.restore t = .ok r := by
  unfold alone
  cases hrun : x.run .empty with
  | error fault l => simp
  | ok t l =>
    refine mapError_eq_ok_iff.trans ⟨fun h => ⟨t, l, rfl, h⟩, ?_⟩
    rintro ⟨t', l', heq, h⟩
    cases heq
    exact h

/-! ## Outcomes -/

/-- Where the resolution succeeds, its result and the ledger after it meet a condition. -/
def Leaves (x : Resolve α) (l : Ledger) (post : α → Ledger → Prop) : Prop := ∀ a l', x.run l = .ok a l' → post a l'

theorem Leaves.pure {post : α → Ledger → Prop} {a : α} {l : Ledger} (h : post a l) : Leaves (Pure.pure a) l post := by
  intro a' l' hrun
  cases hrun
  exact h

theorem Leaves.bind {mid : α → Ledger → Prop} {post : β → Ledger → Prop} {x : Resolve α} {f : α → Resolve β}
    {l : Ledger} (hx : Leaves x l mid) (hf : ∀ a l', mid a l' → Leaves (f a) l' post) : Leaves (x >>= f) l post := by
  intro b l'' hrun
  obtain ⟨a, l', hxa, hfa⟩ := run_bind_eq_ok hrun
  exact hf a l' (hx a l' hxa) b l'' hfa

/-- Two steps that each keep the texts that are held before it keep them together. -/
theorem Leaves.bind_grow {mid : α → Ledger → Prop} {post : β → Ledger → Prop} {x : Resolve α} {f : α → Resolve β}
    {l : Ledger} (hx : Leaves x l fun a l' => l.slots <+: l'.slots ∧ mid a l')
    (hf : ∀ a l', l.slots <+: l'.slots → mid a l' → Leaves (f a) l' fun b l'' => l'.slots <+: l''.slots ∧ post b l'') :
    Leaves (x >>= f) l fun b l'' => l.slots <+: l''.slots ∧ post b l'' := by
  intro b l'' hrun
  obtain ⟨a, l', hxa, hfa⟩ := run_bind_eq_ok hrun
  obtain ⟨hgrow, hmid⟩ := hx a l' hxa
  obtain ⟨hgrow', hpost⟩ := hf a l' hgrow hmid b l'' hfa
  exact ⟨hgrow.trans hgrow', hpost⟩

theorem Leaves.map {mid : α → Ledger → Prop} {post : β → Ledger → Prop} {x : Resolve α} {f : α → β} {l : Ledger}
    (hx : Leaves x l mid) (hf : ∀ a l', mid a l' → post (f a) l') : Leaves (f <$> x) l post := by
  rw [← bind_pure_comp]
  exact hx.bind fun a l' ha => .pure (hf a l' ha)

theorem Leaves.mono {mid post : α → Ledger → Prop} {x : Resolve α} {l : Ledger} (hx : Leaves x l mid)
    (h : ∀ a l', mid a l' → post a l') : Leaves x l post :=
  fun a l' hrun => h a l' (hx a l' hrun)

theorem Leaves.and {post post' : α → Ledger → Prop} {x : Resolve α} {l : Ledger} (h : Leaves x l post)
    (h' : Leaves x l post') : Leaves x l fun a l' => post a l' ∧ post' a l' :=
  fun a l' hrun => ⟨h a l' hrun, h' a l' hrun⟩

/-- Every result meets a condition. -/
def Ensures (p : α → Prop) (x : Resolve α) : Prop := ∀ l, Leaves x l fun a _ => p a

theorem Ensures.pure {p : α → Prop} {a : α} (h : p a) : Ensures p (Pure.pure a) := fun _ => .pure h

theorem Ensures.bind {p : α → Prop} {q : β → Prop} {x : Resolve α} {f : α → Resolve β} (hx : Ensures p x)
    (hf : ∀ a, p a → Ensures q (f a)) : Ensures q (x >>= f) :=
  fun l => (hx l).bind fun a l' ha => hf a ha l'

theorem Ensures.true (x : Resolve α) : Ensures (fun _ => True) x := fun _ _ _ _ => trivial

theorem Ensures.and {p q : α → Prop} {x : Resolve α} (hp : Ensures p x) (hq : Ensures q x) :
    Ensures (fun a => p a ∧ q a) x :=
  fun l => (hp l).and (hq l)

/-- What follows a resolution may assume what its results meet. -/
theorem bind_congr_of_ensures {p : α → Prop} {x : Resolve α} {f g : α → Resolve β} (hx : Ensures p x)
    (h : ∀ a, p a → f a = g a) : x >>= f = x >>= g := by
  funext l
  show (x >>= f).run l = (x >>= g).run l
  rw [EStateM.run_bind, EStateM.run_bind]
  cases hrun : x.run l with
  | ok a l' => simp only [h a (hx l a l' hrun)]
  | error fault l' => rfl

/-! ## Agreement -/

/-- Where the first resolution gives a result that meets a condition, the second one gives it too; if they hold the same
texts before, they hold the same texts after. -/
def Follows (q : α → Prop) (x y : Resolve α) : Prop := ∀ l l' a k, l.slots = l'.slots → x.run l = .ok a k → q a →
  ∃ k', y.run l' = .ok a k' ∧ k'.slots = k.slots

theorem Follows.pure (q : α → Prop) (a : α) : Follows q (Pure.pure a) (Pure.pure a) := by
  intro l l' b k hl hrun _
  cases hrun
  exact ⟨l', rfl, hl.symm⟩

/-- What follows the first resolution may assume what its results meet, and must not give a good result where the first
one did not. -/
theorem Follows.bind {p q : α → Prop} {r : β → Prop} {x y : Resolve α} {f g : α → Resolve β} (hx : Follows q x y)
    (hp : Ensures p x) (hf : ∀ a, p a → Follows r (f a) (g a))
    (hq : ∀ a, (f a).Ensures fun b => r b → q a) : Follows r (x >>= f) (y >>= g) := by
  intro l l' b k hl hrun hb
  obtain ⟨a, k₁, hxa, hfa⟩ := run_bind_eq_ok hrun
  obtain ⟨k₁', hya, hk₁⟩ := hx l l' a k₁ hl hxa (hq a k₁ b k hfa hb)
  obtain ⟨k', hga, hk'⟩ := hf a (hp l a k₁ hxa) k₁ k₁' b k hk₁.symm hfa hb
  exact ⟨k', by rw [run_bind_ok hya, hga], hk'⟩

theorem Follows.seq {r : β → Prop} {x y : Resolve α} {f g : α → Resolve β} (hx : Follows (fun _ => True) x y)
    (hf : ∀ a, Follows r (f a) (g a)) : Follows r (x >>= f) (y >>= g) :=
  hx.bind (.true _) (fun a _ => hf a) fun _ _ _ _ _ _ => trivial

/-- If all results meet the condition, the resolutions agree on all of them. -/
theorem Follows.of_ensures {q : α → Prop} {x y : Resolve α} (h : Follows q x y) (hq : Ensures q x) :
    Follows (fun _ => True) x y :=
  fun l l' a k hl hrun _ => h l l' a k hl hrun (hq l a k hrun)

theorem Follows.weaken {p q : α → Prop} {x y : Resolve α} (h : Follows q x y) (hpq : ∀ a, p a → q a) : Follows p x y :=
  fun l l' a k hl hrun ha => h l l' a k hl hrun (hpq a ha)

/-! ## Faults -/

/-- The resolution fails in none of certain ways. -/
def Avoids (bad : Fault → Prop) (x : Resolve α) : Prop := ∀ l fault l', x.run l = .error fault l' → ¬ bad fault

theorem Avoids.pure {bad : Fault → Prop} (a : α) : Avoids bad (Pure.pure a) := fun _ _ _ hrun => by cases hrun

theorem Avoids.bind {bad : Fault → Prop} {p : α → Prop} {x : Resolve α} {f : α → Resolve β} (hx : Avoids bad x)
    (hp : Ensures p x) (hf : ∀ a, p a → Avoids bad (f a)) : Avoids bad (x >>= f) := by
  intro l fault l' hrun
  rcases run_bind_eq_error hrun with h | ⟨a, l₁, hxa, hfa⟩
  · exact hx l fault l' h
  · exact hf a (hp l a l₁ hxa) l₁ fault l' hfa

theorem Avoids.map {bad : Fault → Prop} {x : Resolve α} (hx : Avoids bad x) (f : α → β) : Avoids bad (f <$> x) := by
  rw [← bind_pure_comp]
  exact hx.bind (.true x) fun a _ => .pure (f a)

/-- A resolution that does not fail at all succeeds. -/
theorem Avoids.succeeds {x : Resolve α} (hx : Avoids (fun _ => True) x) (l : Ledger) : ∃ a l', x.run l = .ok a l' := by
  cases hrun : x.run l with
  | ok a l' => exact ⟨a, l', rfl⟩
  | error fault l' => exact absurd trivial (hx l fault l' hrun)

/-! ## Success -/

/-- The resolution succeeds exactly under a condition, from whatever ledger it starts, and all its results meet
another one. -/
structure SucceedsIff (ok : Prop) (post : α → Prop) (x : Resolve α) : Prop where
  iff (l : Ledger) : (∃ a l', x.run l = .ok a l') ↔ ok
  post : x.Ensures post

theorem SucceedsIff.pure {post : α → Prop} {a : α} (h : post a) : SucceedsIff True post (Pure.pure a) where
  iff l := ⟨fun _ => trivial, fun _ => ⟨a, l, rfl⟩⟩
  post := .pure h

/-- Two steps succeed exactly if both do. -/
theorem SucceedsIff.bind {c d : Prop} {p : α → Prop} {q : β → Prop} {x : Resolve α} {f : α → Resolve β}
    (hx : SucceedsIff c p x) (hf : ∀ a, p a → SucceedsIff d q (f a)) : SucceedsIff (c ∧ d) q (x >>= f) where
  iff l := by
    constructor
    · rintro ⟨b, l'', hrun⟩
      obtain ⟨a, l', hxa, hfa⟩ := run_bind_eq_ok hrun
      exact ⟨(hx.iff l).1 ⟨a, l', hxa⟩, ((hf a (hx.post l a l' hxa)).iff l').1 ⟨b, l'', hfa⟩⟩
    · rintro ⟨hc, hd⟩
      obtain ⟨a, l', hxa⟩ := (hx.iff l).2 hc
      obtain ⟨b, l'', hfa⟩ := ((hf a (hx.post l a l' hxa)).iff l').2 hd
      exact ⟨b, l'', by rw [run_bind_ok hxa, hfa]⟩
  post := hx.post.bind fun a ha => (hf a ha).post

theorem SucceedsIff.mono {ok ok' : Prop} {p q : α → Prop} {x : Resolve α} (hx : SucceedsIff ok p x) (h : ok ↔ ok')
    (hpq : ∀ a, p a → q a) : SucceedsIff ok' q x where
  iff l := (hx.iff l).trans h
  post l := (hx.post l).mono fun a _ ha => hpq a ha

theorem SucceedsIff.map {ok : Prop} {p : α → Prop} {q : β → Prop} {x : Resolve α} {f : α → β}
    (hx : SucceedsIff ok p x) (hf : ∀ a, p a → q (f a)) : SucceedsIff ok q (f <$> x) := by
  rw [← bind_pure_comp]
  exact (hx.bind fun a ha => .pure (hf a ha)).mono (Iff.of_eq (and_true ok)) fun _ h => h

theorem SucceedsIff.and {ok : Prop} {p q : α → Prop} {x : Resolve α} (hx : SucceedsIff ok p x) (hq : x.Ensures q) :
    SucceedsIff ok (fun a => p a ∧ q a) x :=
  ⟨hx.iff, hx.post.and hq⟩

/-! ## Holding -/

theorem run_holdValue {v : Value} {t : Text} (h : v.printed = .ok t) (l : Ledger) :
    (holdValue v).run l = .ok (slotToken l.slots.length) { l with slots := l.slots ++ [t] } := by
  rw [holdValue, h]
  rfl

/-- A held value is stood for by the token of its printed text, which comes after the texts held before. -/
theorem leaves_holdValue (v : Value) (l : Ledger) : (holdValue v).Leaves l fun t l' =>
    ∃ u, v.printed = .ok u ∧ t = slotToken l.slots.length ∧ l'.slots = l.slots ++ [u] := by
  intro t l' hrun
  cases hv : v.printed with
  | ok u =>
    rw [run_holdValue hv] at hrun
    cases hrun
    exact ⟨u, rfl, rfl, rfl⟩
  | error fault =>
    rw [holdValue, hv] at hrun
    cases hrun

theorem follows_holdValue (v : Value) : Follows (fun _ => True) (holdValue v) (holdValue v) := by
  intro l l' t k hl hrun _
  cases hv : v.printed with
  | ok u =>
    rw [run_holdValue hv] at hrun
    cases hrun
    exact ⟨_, by rw [run_holdValue hv, hl], by simp [hl]⟩
  | error fault =>
    rw [holdValue, hv] at hrun
    cases hrun

/-- Holding a value succeeds exactly if the value has a printed text. -/
theorem succeedsIff_holdValue (v : Value) :
    SucceedsIff (∃ t, v.printed = .ok t) (fun _ => True) (holdValue v) where
  iff l := by
    cases hv : v.printed with
    | ok t =>
      have hrun := run_holdValue hv l
      exact ⟨fun _ => ⟨t, rfl⟩, fun _ => ⟨_, _, hrun⟩⟩
    | error fault =>
      refine ⟨?_, ?_⟩
      · rintro ⟨a, l', hrun⟩
        rw [holdValue, hv] at hrun
        cases hrun
      · rintro ⟨t, ht⟩
        cases ht
  post := .true _

theorem succeedsIff_noteExhausted : SucceedsIff True (fun _ => True) noteExhausted :=
  ⟨fun _ => ⟨fun _ => trivial, fun _ => ⟨(), _, rfl⟩⟩, .true _⟩

/-- Holding a value fails only if the value has no printed text. -/
theorem avoids_holdValue {bad : Fault → Prop} {v : Value}
    (h : ∀ fault, v.printed = .error fault → ¬ bad (.value fault)) : (holdValue v).Avoids bad := by
  intro l fault l' hrun
  cases hv : v.printed with
  | ok u =>
    rw [run_holdValue hv] at hrun
    cases hrun
  | error why =>
    rw [holdValue, hv] at hrun
    cases hrun
    exact h why hv

end Stencil.Resolve
