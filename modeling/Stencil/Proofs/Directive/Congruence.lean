import Mathlib.Data.List.Forall2
import Stencil.Directive.Passes

/-!
# Passes side by side

* **Congruences** (`Resolve.Congruence`): relations between resolutions that hold of equal results, of equal notes, and
  of resolutions whose steps they relate.
* Two rows of passes are related if their loops are: over the same text, under scopes in which the same names hold.
-/

namespace Stencil.Resolve

/-- A relation between resolutions that steps done one after the other pass on. -/
structure Congruence (rel : ∀ α : Type, Resolve α → Resolve α → Prop) : Prop where
  pure {α : Type} (a : α) : rel α (Pure.pure a) (Pure.pure a)
  bind {α β : Type} {x y : Resolve α} {f g : α → Resolve β} : rel α x y → (∀ a, rel β (f a) (g a)) →
    rel β (x >>= f) (y >>= g)
  noteExhausted : rel Unit noteExhausted noteExhausted

namespace Congruence

variable {rel : ∀ α : Type, Resolve α → Resolve α → Prop} (hr : Congruence rel)

include hr

theorem writeM {α : Type} {write write' : α → Resolve Text} (h : ∀ a, rel _ (write a) (write' a)) :
    ∀ ps : List (Piece α), rel _ (Text.writeM write ps) (Text.writeM write' ps)
  | [] => hr.pure _
  | .char _ :: ps => hr.bind (writeM h ps) fun _ => hr.pure _
  | .item a :: ps => hr.bind (h a) fun _ => hr.bind (writeM h ps) fun _ => hr.pure _

variable {resolve resolve' : Scope → Text → Resolve Text} {scope scope' : Scope}

theorem expandElement {body : Text} {f f' : Frame}
    (hbody : rel _ (resolve (scope.enter f.index f.item) body) (resolve' (scope'.enter f'.index f'.item) body))
    (hfill : ∀ p, rel _ (fillPlaceholder (scope.enter f.index f.item) f p)
      (fillPlaceholder (scope'.enter f'.index f'.item) f' p)) :
    rel _ (Stencil.expandElement resolve scope body f) (Stencil.expandElement resolve' scope' body f') :=
  hr.bind hbody fun _ => hr.writeM hfill _

theorem expandElements {body : Text} {items items' : List Value}
    (h : List.Forall₂ (fun item item' => ∀ index, rel _ (Stencil.expandElement resolve scope body ⟨index, item⟩)
      (Stencil.expandElement resolve' scope' body ⟨index, item'⟩)) items items') (index : Nat) :
    rel _ (Stencil.expandElements resolve scope body index items)
      (Stencil.expandElements resolve' scope' body index items') := by
  induction h generalizing index with
  | nil => exact hr.pure _
  | cons hhere _ ih => exact hr.bind (hhere index) fun _ => hr.bind (ih (index + 1)) fun _ => hr.pure _

theorem expandLoop {l : Loop}
    (h : Option.Rel (List.Forall₂ fun item item' => ∀ index,
        rel _ (Stencil.expandElement resolve scope l.body ⟨index, item⟩)
          (Stencil.expandElement resolve' scope' l.body ⟨index, item'⟩))
      (scope.lookup l.name).elements? (scope'.lookup l.name).elements?) :
    rel _ (Stencil.expandLoop resolve scope l) (Stencil.expandLoop resolve' scope' l) := by
  unfold Stencil.expandLoop
  generalize (scope.lookup l.name).elements? = o, (scope'.lookup l.name).elements? = o' at h
  cases h with
  | some hitems => exact hr.expandElements hitems 0
  | none => exact hr.pure _

theorem onePass (hholds : scope.holds = scope'.holds)
    (hloop : ∀ l, rel _ (Stencil.expandLoop resolve scope l) (Stencil.expandLoop resolve' scope' l)) (t : Text) :
    rel _ (Stencil.onePass resolve scope t) (Stencil.onePass resolve' scope' t) := by
  unfold Stencil.onePass
  rw [hholds]
  exact hr.writeM hloop _

theorem settle {step step' : Text → Resolve Text} (h : ∀ t, rel _ (step t) (step' t)) :
    ∀ (budget : Nat) (t : Text), rel _ (Stencil.settle step budget t) (Stencil.settle step' budget t)
  | 0, _ => hr.bind hr.noteExhausted fun _ => hr.pure _
  | budget + 1, t => hr.bind (h t) fun t' => by
    split
    · exact hr.pure _
    · exact settle h budget t'

end Congruence

end Stencil.Resolve
