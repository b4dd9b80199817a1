import Mathlib.Data.List.Forall2
import Stencil.Scope

/-!
# Values of one shape

* **Shapes** (`Value.SameShape`): two sequences have one shape if they are of one length and their elements have one
  shape pairwise, two mappings if they have the same names and their fields have one shape under each name, and two
  other values if both are true or both are false. A value may hold itself, so that a shape is what some relation
  between values bears out that passes on to elements and fields.
* What a template can tell of values is their shape: values of one shape are true alike (`SameShape.isTruthy_eq`), and
  scopes of one shape look up values of one shape (`Scope.SameShape.lookup`).
-/

namespace Stencil

/-! ## Related options -/

section Options

variable {α : Type} {rel rel' : α → α → Prop}

theorem optionRel_mono (h : ∀ x y, rel x y → rel' x y) :
    ∀ {o o' : Option α}, Option.Rel rel o o' → Option.Rel rel' o o'
  | _, _, .some hx => .some (h _ _ hx)
  | _, _, .none => .none

theorem optionRel_refl (h : ∀ x, rel x x) : ∀ o : Option α, Option.Rel rel o o
  | some x => .some (h x)
  | none => .none

end Options

namespace Value

/-! ## Sequences and mappings -/

theorem isTruthy_of_elements? {v : Value} {items : List Value} (h : v.elements? = some items) :
    v.isTruthy = !items.isEmpty := by
  unfold elements? at h
  unfold isTruthy
  split at h
  · cases h
    simp [*]
  · cases h
    simp [*]
  · cases h

theorem isTruthy_of_fields? {v : Value} {fields : Fields} (h : v.fields? = some fields) : v.isTruthy = true := by
  unfold fields? at h
  unfold isTruthy
  split at h
  · simp [*]
  · simp [*]
  · cases h

/-- A mapping is no sequence. -/
theorem elements?_of_fields? {v : Value} {fields : Fields} (h : v.fields? = some fields) : v.elements? = none := by
  unfold fields? at h
  unfold elements?
  split at h
  · simp [*]
  · simp [*]
  · cases h

/-! ## Shapes -/

/-- What values of one shape have in common, given a relation between their elements and fields. -/
inductive Alike (rel : Value → Value → Prop) (v w : Value) : Prop
  | sequences {items items' : List Value} (hv : v.elements? = some items) (hw : w.elements? = some items')
      (h : List.Forall₂ rel items items')
  | mappings {fields fields' : Fields} (hv : v.fields? = some fields) (hw : w.fields? = some fields')
      (h : ∀ name, Option.Rel rel (fields.get? name) (fields'.get? name))
  | others (hv : v.elements? = none ∧ v.fields? = none) (hw : w.elements? = none ∧ w.fields? = none)
      (h : v.isTruthy = w.isTruthy)

/-- Values of one shape. -/
def SameShape (v w : Value) : Prop := ∃ rel : Value → Value → Prop, (∀ x y, rel x y → Alike rel x y) ∧ rel v w

variable {v w : Value}

theorem Alike.mono {rel rel' : Value → Value → Prop} (h : ∀ x y, rel x y → rel' x y) : Alike rel v w → Alike rel' v w
  | sequences hv hw hi => .sequences hv hw (hi.imp h)
  | mappings hv hw hf => .mappings hv hw fun name => optionRel_mono h (hf name)
  | others hv hw ht => .others hv hw ht

theorem SameShape.alike : SameShape v w → Alike SameShape v w
  | ⟨rel, hrel, hvw⟩ => (hrel v w hvw).mono fun _ _ hxy => ⟨rel, hrel, hxy⟩

/-- Values have one shape if their elements or fields have, or if they have none and are true alike. -/
theorem Alike.sameShape (h : Alike SameShape v w) : SameShape v w :=
  ⟨Alike SameShape, fun _ _ hxy => hxy.mono fun _ _ => SameShape.alike, h⟩

theorem sameShape_refl (v : Value) : SameShape v v := by
  refine ⟨Eq, fun x y hxy => ?_, rfl⟩
  subst hxy
  cases hi : x.elements? with
  | some items => exact .sequences hi hi (List.forall₂_refl items)
  | none => cases hf : x.fields? with
    | some fields => exact .mappings hf hf fun name => optionRel_refl (fun _ => rfl) _
    | none => exact .others ⟨hi, hf⟩ ⟨hi, hf⟩ rfl

/-- Values of one shape are true alike. -/
theorem SameShape.isTruthy_eq (h : SameShape v w) : v.isTruthy = w.isTruthy := by
  cases h.alike with
  | sequences hv hw hi =>
    rw [isTruthy_of_elements? hv, isTruthy_of_elements? hw]
    cases hi <;> rfl
  | mappings hv hw _ => rw [isTruthy_of_fields? hv, isTruthy_of_fields? hw]
  | others _ _ ht => exact ht

theorem SameShape.elements? (h : SameShape v w) : Option.Rel (List.Forall₂ SameShape) v.elements? w.elements? := by
  cases h.alike with
  | sequences hv hw hi =>
    rw [hv, hw]
    exact .some hi
  | mappings hv hw _ =>
    rw [elements?_of_fields? hv, elements?_of_fields? hw]
    exact .none
  | others hv hw _ =>
    rw [hv.1, hw.1]
    exact .none

end Value

/-! ## Fields of one shape -/

/-- Mappings that have the same names, and values of one shape under them. -/
def Fields.SameShape (fields fields' : Fields) : Prop :=
  ∀ name, Option.Rel Value.SameShape (fields.get? name) (fields'.get? name)

theorem Fields.sameShape_nil : Fields.SameShape [] [] := fun _ => .none

theorem Value.SameShape.fields {v w : Value} (h : SameShape v w) :
    Fields.SameShape (v.fields?.getD []) (w.fields?.getD []) := by
  cases h.alike with
  | sequences hv hw hi =>
    have hno : ∀ {x : Value} {items : List Value}, x.elements? = some items → x.fields? = none := by
      intro x items hx
      cases hf : x.fields? with
      | none => rfl
      | some fields =>
        rw [elements?_of_fields? hf] at hx
        cases hx
    rw [hno hv, hno hw]
    exact Fields.sameShape_nil
  | mappings hv hw hf =>
    rw [hv, hw]
    exact hf
  | others hv hw _ =>
    rw [hv.2, hw.2]
    exact Fields.sameShape_nil

/-! ## Scopes of one shape -/

namespace Scope

/-- Scopes that are entered alike, through elements of one shape, from variables of one shape. -/
structure SameShape (s s' : Scope) : Prop where
  frames : List.Forall₂ (fun f g : Frame => f.index = g.index ∧ f.item.SameShape g.item) s.frames s'.frames
  vars : Fields.SameShape s.vars s'.vars

variable {s s' : Scope}

theorem SameShape.outer {vars vars' : Fields} (h : Fields.SameShape vars vars') :
    SameShape (Scope.outer vars) (Scope.outer vars') := ⟨.nil, h⟩

theorem SameShape.enter (h : SameShape s s') (index : Nat) {item item' : Value} (hi : item.SameShape item') :
    SameShape (s.enter index item) (s'.enter index item') := ⟨.cons ⟨rfl, hi⟩ h.frames, h.vars⟩

theorem SameShape.get? (h : SameShape s s') (name : Text) :
    Option.Rel Value.SameShape (s.get? name) (s'.get? name) := by
  have hvars := h.vars name
  obtain ⟨hframes, -⟩ := h
  unfold Scope.get?
  generalize s.frames = frames, s'.frames = frames' at hframes
  induction hframes with
  | nil => exact hvars
  | @cons f g fs gs hfg _ ih =>
    obtain ⟨hindex, hitem⟩ := hfg
    rw [getFrom?, getFrom?, hindex]
    split
    · exact .some hitem
    · split
      · exact .some (Value.sameShape_refl _)
      · have hfield : Option.Rel Value.SameShape (f.fields.get? name) (g.fields.get? name) := hitem.fields name
        revert hfield
        cases f.fields.get? name <;> cases g.fields.get? name <;> intro hfield
        · exact ih
        · cases hfield
        · cases hfield
        · exact hfield

/-- What scopes of one shape look up has one shape. -/
theorem SameShape.lookup (h : SameShape s s') (name : Text) : (s.lookup name).SameShape (s'.lookup name) := by
  have hgetD : ∀ {o o' : Option Value}, Option.Rel Value.SameShape o o' → (o.getD .null).SameShape (o'.getD .null)
    | _, _, .some hv => hv
    | _, _, .none => Value.sameShape_refl _
  unfold Scope.lookup
  split
  · rename_i field _
    have hfields : ∀ v : Value, (v.fields?.bind fun fields => fields.get? field)
        = Fields.get? (v.fields?.getD []) field := fun v => by cases v.fields? <;> rfl
    have hthis := h.get? thisName
    revert hthis
    cases s.get? thisName <;> cases s'.get? thisName <;> intro hthis
    · exact Value.sameShape_refl _
    · cases hthis
    · cases hthis
    · rw [Option.bind_some, Option.bind_some, hfields, hfields]
      cases hthis with
      | some hv => exact hgetD (hv.fields field)
  · exact hgetD (h.get? name)

theorem SameShape.holds (h : SameShape s s') : s.holds = s'.holds :=
  funext fun name => (h.lookup name).isTruthy_eq

end Scope

end Stencil
