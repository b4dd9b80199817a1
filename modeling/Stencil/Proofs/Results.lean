import Mathlib.Data.List.Forall2
import Mathlib.Logic.Basic

/-!
# Steps that may fail

* **Errors** are changed by `Except.mapError`, which leaves results as they are.
* **Success**: one step and then another succeed if both do (`bind_ok_iff`), and steps for all elements of a list if
  each of them does (`mapM_ok_iff`, `mapM_ok_of_forall`).
* **Results** are those of the elements, in order (`mapM_eq_ok_iff`), with or without their numbers (`mapM_zipIdx_eq`).
* **Failure**: two steps fail as one of them (`bind_eq_error_iff`), and steps for the elements of a list as the first
  one that fails (`mapM_eq_error_iff`).
* Steps that give no reason give the results of the elements (`mapM_eq_some`), or none if one of them gives none
  (`mapM_eq_none`).
-/

namespace Stencil

variable {ε ε' α β : Type}

theorem mapError_ok (f : ε → ε') (a : α) : (Except.ok a : Except ε α).mapError f = .ok a := rfl

theorem mapError_error (f : ε → ε') (fault : ε) : (Except.error fault : Except ε α).mapError f = .error (f fault) := rfl

theorem mapError_eq_ok_iff {f : ε → ε'} {x : Except ε α} {a : α} : x.mapError f = .ok a ↔ x = .ok a := by
  cases x <;> simp [mapError_ok, mapError_error]

theorem mapError_eq_error_iff {f : ε → ε'} {x : Except ε α} {fault : ε'} :
    x.mapError f = .error fault ↔ ∃ why, x = .error why ∧ f why = fault := by
  cases x <;> simp [mapError_ok, mapError_error]

theorem eq_ok_of_toOption {x : Except ε α} {a : α} (h : x.toOption = some a) : x = .ok a := by
  cases x with
  | error fault => cases h
  | ok b => exact congrArg Except.ok (Option.some.inj h)

theorem bind_ok_iff {x : Except ε α} {f : α → Except ε β} {c : Prop} (h : ∀ a, (∃ b, f a = .ok b) ↔ c) :
    (∃ b, (x >>= f) = .ok b) ↔ (∃ a, x = .ok a) ∧ c := by
  cases x with
  | error fault =>
    refine ⟨fun ⟨_, hb⟩ => ?_, fun ⟨⟨_, ha⟩, _⟩ => ?_⟩
    · cases hb
    · cases ha
  | ok a => exact (h a).trans ⟨fun hc => ⟨⟨a, rfl⟩, hc⟩, fun ⟨_, hc⟩ => hc⟩

theorem bind_eq_ok_iff {x : Except ε α} {f : α → Except ε β} {b : β} :
    (x >>= f) = .ok b ↔ ∃ a, x = .ok a ∧ f a = .ok b := by
  cases x <;> simp [bind, Except.bind]

/-- Two steps fail as the first one, or as the second one after it. -/
theorem bind_eq_error_iff {x : Except ε α} {f : α → Except ε β} {fault : ε} :
    (x >>= f) = .error fault ↔ x = .error fault ∨ ∃ a, x = .ok a ∧ f a = .error fault := by
  cases x <;> simp [bind, Except.bind]

theorem map_ok_iff {x : Except ε α} {f : α → β} :
    (∃ b, (do return f (← x) : Except ε β) = .ok b) ↔ ∃ a, x = .ok a :=
  (bind_ok_iff fun a => iff_true_intro ⟨f a, rfl⟩).trans (and_iff_left trivial)

theorem map_eq_ok_iff {x : Except ε α} {f : α → β} {b : β} :
    (do return f (← x) : Except ε β) = .ok b ↔ ∃ a, x = .ok a ∧ f a = b := by
  rw [bind_eq_ok_iff]
  exact exists_congr fun a => and_congr_right fun _ => ⟨Except.ok.inj, congrArg Except.ok⟩

/-- Steps for all elements succeed exactly if each of them does. -/
theorem mapM_ok_iff {f : α → Except ε β} (xs : List α) :
    (∃ ys, xs.mapM f = .ok ys) ↔ ∀ x ∈ xs, ∃ y, f x = .ok y := by
  induction xs with
  | nil => exact ⟨fun _ _ h => absurd h List.not_mem_nil, fun _ => ⟨[], rfl⟩⟩
  | cons x xs ih =>
    rw [List.mapM_cons, List.forall_mem_cons, ← ih]
    exact bind_ok_iff fun y => map_ok_iff

/-- If the step for each element gives a result with a property, then all the results have it. -/
theorem mapM_ok_of_forall {f : α → Except ε β} {p : β → Prop} {xs : List α}
    (h : ∀ x ∈ xs, ∃ y, f x = .ok y ∧ p y) : ∃ ys, xs.mapM f = .ok ys ∧ ∀ y ∈ ys, p y := by
  induction xs with
  | nil => exact ⟨[], rfl, fun _ hy => absurd hy List.not_mem_nil⟩
  | cons x xs ih =>
    obtain ⟨hx, hxs⟩ := List.forall_mem_cons.1 h
    obtain ⟨y, hy, hp⟩ := hx
    obtain ⟨ys, hys, hps⟩ := ih hxs
    exact ⟨y :: ys, by rw [List.mapM_cons, hy, hys]; rfl, List.forall_mem_cons.2 ⟨hp, hps⟩⟩

/-- The results of steps for the elements of a list are those of each. -/
theorem mapM_eq_ok_iff {f : α → Except ε β} {xs : List α} {ys : List β} :
    xs.mapM f = .ok ys ↔ List.Forall₂ (fun x y => f x = .ok y) xs ys := by
  induction xs generalizing ys with
  | nil =>
    rw [List.forall₂_nil_left_iff, List.mapM_nil]
    exact ⟨fun h => (Except.ok.inj h).symm, fun h => h ▸ rfl⟩
  | cons x xs ih =>
    rw [List.mapM_cons, List.forall₂_cons_left_iff, bind_eq_ok_iff]
    constructor
    · rintro ⟨y, hy, hrest⟩
      obtain ⟨ys', hys, h⟩ := bind_eq_ok_iff.1 hrest
      exact ⟨y, ys', hy, ih.1 hys, (Except.ok.inj h).symm⟩
    · rintro ⟨y, ys', hy, hys, rfl⟩
      exact ⟨y, hy, bind_eq_ok_iff.2 ⟨ys', ih.2 hys, rfl⟩⟩

/-- Steps that pass over the numbers of elements are steps for the elements. -/
theorem mapM_zipIdx_eq {f : α × Nat → Except ε β} {g : α → Except ε β} {xs : List α}
    (h : ∀ x ∈ xs, ∀ n, f (x, n) = g x) (start : Nat) : (xs.zipIdx start).mapM f = xs.mapM g := by
  induction xs generalizing start with
  | nil => rfl
  | cons x xs ih =>
    obtain ⟨hx, hxs⟩ := List.forall_mem_cons.1 h
    rw [List.zipIdx_cons, List.mapM_cons, List.mapM_cons, ih hxs, hx]

/-- Relations of elements, one after the other, give one of the ends. -/
theorem forall₂_trans {γ : Type} {r : α → β → Prop} {s : β → γ → Prop} {t : α → γ → Prop} {xs : List α} {ys : List β}
    {zs : List γ} (hr : List.Forall₂ r xs ys) (hs : List.Forall₂ s ys zs) (h : ∀ x y z, r x y → s y z → t x z) :
    List.Forall₂ t xs zs := by
  induction hr generalizing zs with
  | nil =>
    cases hs
    exact .nil
  | cons hxy _ ih =>
    cases hs with
    | cons hyz hrest => exact .cons (h _ _ _ hxy hyz) (ih hrest)

/-- Elements that are each related to something make a list that is related to another one. -/
theorem exists_forall₂ {r : α → β → Prop} {xs : List α} (h : ∀ x ∈ xs, ∃ y, r x y) : ∃ ys, List.Forall₂ r xs ys := by
  induction xs with
  | nil => exact ⟨[], .nil⟩
  | cons x xs ih =>
    obtain ⟨⟨y, hy⟩, hxs⟩ := List.forall_mem_cons.1 h
    obtain ⟨ys, hys⟩ := ih hxs
    exact ⟨y :: ys, .cons hy hys⟩

/-- Steps for the elements of a list fail as the first one that fails. -/
theorem mapM_eq_error_iff {f : α → Except ε β} {fault : ε} (xs : List α) : xs.mapM f = .error fault ↔
    ∃ before x after, xs = before ++ x :: after ∧ (∀ y ∈ before, ∃ b, f y = .ok b) ∧ f x = .error fault := by
  induction xs with
  | nil =>
    refine ⟨fun h => ?_, ?_⟩
    · cases h
    · rintro ⟨before, x, after, hsplit, -⟩
      simp at hsplit
  | cons x xs ih =>
    rw [List.mapM_cons]
    cases hx : f x with
    | error other =>
      constructor
      · intro h
        cases h
        exact ⟨[], x, xs, rfl, fun _ hy => absurd hy List.not_mem_nil, hx⟩
      · rintro ⟨before, y, after, hsplit, hbefore, hy⟩
        cases before with
        | nil =>
          cases hsplit
          rw [hx] at hy
          cases hy
          rfl
        | cons z before =>
          cases hsplit
          obtain ⟨b, hb⟩ := hbefore x List.mem_cons_self
          rw [hx] at hb
          cases hb
    | ok b =>
      have hrest : (do let ys ← xs.mapM f; return b :: ys : Except ε (List β)) = .error fault ↔
          xs.mapM f = .error fault := by
        cases xs.mapM f <;> simp [bind, Except.bind, pure, Except.pure]
      refine hrest.trans (ih.trans ⟨?_, ?_⟩)
      · rintro ⟨before, y, after, rfl, hbefore, hy⟩
        exact ⟨x :: before, y, after, rfl, List.forall_mem_cons.2 ⟨⟨b, hx⟩, hbefore⟩, hy⟩
      · rintro ⟨before, y, after, hsplit, hbefore, hy⟩
        cases before with
        | nil =>
          cases hsplit
          rw [hx] at hy
          cases hy
        | cons z before =>
          cases hsplit
          exact ⟨before, y, after, rfl, fun u hu => hbefore u (List.mem_cons_of_mem _ hu), hy⟩

/-! ## Steps that give no reason -/

theorem mapM_eq_some {f : α → Option β} {xs : List α} {ys : List β} (h : List.Forall₂ (fun x y => f x = some y) xs ys) :
    xs.mapM f = some ys := by
  induction h with
  | nil => rfl
  | cons hx _ ih => rw [List.mapM_cons, hx, ih]; rfl

theorem mapM_eq_none {f : α → Option β} {xs : List α} {x : α} (hx : x ∈ xs) (hf : f x = none) : xs.mapM f = none := by
  induction xs with
  | nil => exact absurd hx List.not_mem_nil
  | cons y ys ih =>
    rw [List.mapM_cons]
    obtain rfl | hx := List.mem_cons.1 hx
    · rw [hf]
      rfl
    · rw [ih hx]
      cases f y <;> rfl

end Stencil
