import Stencil.Proofs.Directive.Congruence
import Stencil.Proofs.Directive.Faults
import Stencil.Proofs.Value.Shape

/-!
# Two resolutions of one text

* **Parallel resolutions** (`Resolve.Parallel`), from ledgers that hold as many texts, both succeed with one result or
  both fail for one reason, and leave ledgers that hold as many texts.
* Variables of one shape whose parts all print make the resolutions of a text parallel (`parallel_resolveDirectives`):
  what is in a value is never read as markup, and shows in nothing but the held texts.
-/

namespace Stencil

/-! ## Parallel resolutions -/

/-- Ledgers that differ at most in the texts that they hold. -/
structure Ledger.Alike (l l' : Ledger) : Prop where
  held : l.slots.length = l'.slots.length
  exhausted : l.exhausted = l'.exhausted

namespace Resolve

variable {α β : Type}

/-- From ledgers that are alike, both resolutions have one result or fail for one reason, and the ledgers after them
are alike. -/
def Parallel (x y : Resolve α) : Prop := ∀ l l', Ledger.Alike l l' →
  (∃ a k k', x.run l = .ok a k ∧ y.run l' = .ok a k' ∧ k.Alike k') ∨
  ∃ fault k k', x.run l = .error fault k ∧ y.run l' = .error fault k' ∧ k.Alike k'

theorem Parallel.pure (a : α) : Parallel (Pure.pure a) (Pure.pure a) := fun l l' hl => .inl ⟨a, l, l', rfl, rfl, hl⟩

theorem Parallel.throw (fault : Fault) : Parallel (α := α) (throw fault) (throw fault) :=
  fun l l' hl => .inr ⟨fault, l, l', rfl, rfl, hl⟩

theorem Parallel.bind {x y : Resolve α} {f g : α → Resolve β} (hx : Parallel x y) (hf : ∀ a, Parallel (f a) (g a)) :
    Parallel (x >>= f) (y >>= g) := by
  intro l l' hl
  rcases hx l l' hl with ⟨a, k, k', hxa, hya, hk⟩ | ⟨fault, k, k', hxe, hye, hk⟩
  · rw [run_bind_ok hxa, run_bind_ok hya]
    exact hf a k k' hk
  · exact .inr ⟨fault, k, k', run_bind_error hxe f, run_bind_error hye g, hk⟩

theorem congruence_parallel : Congruence @Parallel where
  pure := .pure
  bind := .bind
  noteExhausted _ _ hl := .inl ⟨(), _, _, rfl, rfl, hl.held, congrArg (· + 1) hl.exhausted⟩

/-- Values that print are held under one token, whatever their texts. -/
theorem parallel_holdValue {v w : Value} (hv : v.Prints) (hw : w.Prints) : Parallel (holdValue v) (holdValue w) := by
  intro l l' hl
  obtain ⟨t, ht⟩ := hv v .self
  obtain ⟨u, hu⟩ := hw w .self
  refine .inl ⟨slotToken l.slots.length, _, { l' with slots := l'.slots ++ [u] }, run_holdValue ht l, ?_, ?_,
    hl.exhausted⟩
  · rw [run_holdValue hu, hl.held]
  · simp [hl.held]

end Resolve

/-! ## Scopes of one shape -/

open Markup (forEach slot)
open Resolve (Parallel congruence_parallel parallel_holdValue)

/-- Elements of one shape answer for the same placeholders. -/
theorem parallel_fillPlaceholder (s s' : Scope) (index : Nat) {item item' : Value} (hshape : item.SameShape item')
    (hl : item.Prints) (hr : item'.Prints) (p : Placeholder) :
    Parallel (fillPlaceholder (s.enter index item) ⟨index, item⟩ p)
      (fillPlaceholder (s'.enter index item') ⟨index, item'⟩ p) := by
  have hp := Value.hereditary_prints
  unfold fillPlaceholder
  split
  · exact .pure _
  · split
    · exact .pure _
    · split
      · rename_i hthis
        exact parallel_holdValue (Scope.Within.this hp hl hthis) (Scope.Within.this hp hr hthis)
      · have hfield : Option.Rel Value.SameShape (Frame.fields ⟨index, item⟩ |>.get? p.name)
            (Frame.fields ⟨index, item'⟩ |>.get? p.name) := hshape.fields p.name
        have hleft : ∀ v, (Frame.fields ⟨index, item⟩).get? p.name = some v → v.Prints := fun _ hv =>
          Scope.field_frame hp (f := ⟨index, item⟩) hl hv
        have hright : ∀ v, (Frame.fields ⟨index, item'⟩).get? p.name = some v → v.Prints := fun _ hv =>
          Scope.field_frame hp (f := ⟨index, item'⟩) hr hv
        generalize (Frame.fields ⟨index, item⟩).get? p.name = o,
          (Frame.fields ⟨index, item'⟩).get? p.name = o' at hfield hleft hright
        cases hfield with
        | some _ => exact parallel_holdValue (hleft _ rfl) (hright _ rfl)
        | none => exact .pure _

/-- Scopes of one shape in which all values print. -/
structure Scope.Twins (s s' : Scope) : Prop where
  shape : s.SameShape s'
  left : s.Within Value.Prints
  right : s'.Within Value.Prints

namespace Scope.Twins

variable {s s' : Scope}

theorem enter (h : s.Twins s') (index : Nat) {item item' : Value} (hshape : item.SameShape item') (hl : item.Prints)
    (hr : item'.Prints) : (s.enter index item).Twins (s'.enter index item') :=
  ⟨h.shape.enter index hshape, h.left.enter index hl, h.right.enter index hr⟩

/-- The elements of a loop have one shape pairwise, and print. -/
theorem elements (h : s.Twins s') (name : Text) :
    Option.Rel (List.Forall₂ fun item item' => item.SameShape item' ∧ item.Prints ∧ item'.Prints)
      (s.lookup name).elements? (s'.lookup name).elements? := by
  have hshape := (h.shape.lookup name).elements?
  have hleft : ∀ items, (s.lookup name).elements? = some items → ∀ item ∈ items, item.Prints := fun _ hi =>
    h.left.elements Value.hereditary_prints hi
  have hright : ∀ items, (s'.lookup name).elements? = some items → ∀ item ∈ items, item.Prints := fun _ hi =>
    h.right.elements Value.hereditary_prints hi
  generalize (s.lookup name).elements? = o, (s'.lookup name).elements? = o' at hshape hleft hright
  cases hshape with
  | none => exact .none
  | @some items items' hitems =>
    refine .some (List.forall₂_iff_get.2 ⟨hitems.length_eq, fun i hi hi' => ?_⟩)
    exact ⟨hitems.get hi hi', hleft items rfl _ (List.get_mem _ _), hright items' rfl _ (List.get_mem _ _)⟩

/-! ## Loops and passes -/

variable {resolve resolve' : Scope → Text → Resolve Text}

/-- One pass over a text is parallel if the resolutions of loop bodies are. -/
theorem onePass (h : s.Twins s') (hresolve : ∀ s s' : Scope, s.Twins s' → ∀ t, Parallel (resolve s t) (resolve' s' t))
    (t : Text) : Parallel (Stencil.onePass resolve s t) (Stencil.onePass resolve' s' t) := by
  refine congruence_parallel.onePass h.shape.holds (fun l => congruence_parallel.expandLoop ?_) t
  refine optionRel_mono (fun items items' hitems => hitems.imp fun item item' hitem index => ?_)
    (h.elements l.name)
  obtain ⟨hshape, hl, hr⟩ := hitem
  exact congruence_parallel.expandElement (hresolve _ _ (h.enter index hshape hl hr) l.body)
    (parallel_fillPlaceholder _ _ index hshape hl hr)

/-- Passes in scopes of one shape are parallel. -/
theorem runPasses (budget : Nat) : ∀ (depth : Nat) {s s' : Scope}, s.Twins s' → ∀ t : Text,
    Parallel (Stencil.runPasses budget depth s t) (Stencil.runPasses budget depth s' t)
  | 0, _, _, _, _ => .throw .tooDeep
  | depth + 1, _, _, h, t =>
    congruence_parallel.settle (h.onePass fun _ _ hinner => runPasses budget depth hinner) budget t

end Scope.Twins

/-! ## Texts -/

/-- **Values are never read as markup**: under variables of one shape whose parts all print, the resolutions of any text
succeed with one text and as many held texts, or fail for one reason, with any budget and any number of levels. -/
theorem parallel_resolveDirectives (budget : PassBudget) (t : Text) {vars vars' : Fields}
    (hshape : Fields.SameShape vars vars') (hvars : ∀ name v, vars.get? name = some v → v.Prints)
    (hvars' : ∀ name v, vars'.get? name = some v → v.Prints) :
    (resolveDirectives budget.val t vars).Parallel (resolveDirectives budget.val t vars') ∧
    ∀ depth, (runPasses budget.val depth (.outer vars) t).Parallel (runPasses budget.val depth (.outer vars') t) := by
  have htwins : (Scope.outer vars).Twins (Scope.outer vars') := ⟨.outer hshape, .outer hvars, .outer hvars'⟩
  exact ⟨htwins.runPasses budget.val _ t, fun depth => htwins.runPasses budget.val depth t⟩

/-! ## Markup as data -/

/-- A loop over records, after a tag that was never opened. -/
def roster : Text := "\x7d\x7d".text ++ (forEach "rows" (slot "name")).print

/-- One record with a name. -/
def rowsNamed (name : Text) : Fields :=
  [(.str "rows".text, .list [.record [(.str "name".text, .str name)]])]

theorem get?_single {key name : Text} {v x : Value} (h : Fields.get? [(.str key, v)] name = some x) : x = v := by
  rw [Fields.get?] at h
  split at h
  · exact (Option.some.inj h).symm
  · cases h

theorem prints_rowsNamed (name : Text) {key : Text} {v : Value} (h : (rowsNamed name).get? key = some v) :
    v.Prints := by
  have hname : (Value.str name).Prints :=
    Value.throughout_of_parts ⟨_, rfl⟩ (fun _ hi => by cases hi) fun _ _ _ hf => by cases hf
  rw [get?_single h]
  refine Value.throughout_of_parts ⟨_, rfl⟩ (fun items hi x hx => ?_) fun _ _ _ hf => by cases hf
  cases hi
  rw [List.mem_singleton.1 hx]
  refine Value.throughout_of_parts ⟨_, rfl⟩ (fun _ hi => by cases hi) fun fields key x hf hx => ?_
  cases hf
  rw [get?_single hx]
  exact hname

theorem sameShape_rowsNamed {name name' : Text} (h : name.isEmpty = name'.isEmpty) :
    Fields.SameShape (rowsNamed name) (rowsNamed name') := by
  have hsingle : ∀ (key : Text) {v w : Value}, v.SameShape w →
      Fields.SameShape [(.str key, v)] [(.str key, w)] := by
    intro key v w hvw other
    by_cases hkey : key = other
    · simpa [Fields.get?, hkey] using hvw
    · simp [Fields.get?, hkey]
  have hname : (Value.str name).SameShape (.str name') :=
    Value.Alike.sameShape (.others ⟨rfl, rfl⟩ ⟨rfl, rfl⟩ (by simp [Value.isTruthy, Value.opened, h]))
  have hrecord := Value.Alike.sameShape (.mappings (v := .record _) (w := .record _) rfl rfl
    (hsingle "name".text hname))
  exact hsingle _ (Value.Alike.sameShape (.sequences (v := .list _) (w := .list _) rfl rfl (.cons hrecord .nil)))

/-- A name that is a loop itself is held as any other. -/
theorem parallel_roster :
    (resolveDirectives 2 roster (rowsNamed "Ada".text)).Parallel (resolveDirectives 2 roster (rowsNamed roster)) ∧
    (resolveDirectives 2 roster (rowsNamed "Ada".text)).run .empty
      = .ok ("\x7d\x7d".text ++ slotToken 0) ⟨["Ada".text], 0⟩ ∧
    (resolveDirectives 2 roster (rowsNamed roster)).run .empty
      = .ok ("\x7d\x7d".text ++ slotToken 0) ⟨[roster], 0⟩ := by
  have hempty : "Ada".text.isEmpty = roster.isEmpty := rfl
  have hruns := parallel_resolveDirectives ⟨2, by decide⟩ roster (sameShape_rowsNamed hempty)
    (fun _ _ => prints_rowsNamed _) fun _ _ => prints_rowsNamed _
  exact ⟨hruns.1, rfl, rfl⟩

end Stencil
