import Stencil.Value.Printed

/-!
# Parts of values

* **Parts** (`Value.Part`): a value, the parts of its elements and the parts of its fields.
* **Hereditary conditions** (`Value.Hereditary`) pass from a value to its elements and to its fields, as does each
  condition on all parts of a value (`Value.Throughout`). That all parts print (`Value.Prints`) is one.
-/

namespace Stencil.Value

/-- A value that another one is made of: itself, or a part of one of its elements or fields. -/
inductive Part (w : Value) : Value → Prop
  | self : Part w w
  | element {v x : Value} {items : List Value} : v.elements? = some items → x ∈ items → Part w x → Part w v
  | field {v x : Value} {fields : Fields} {name : Text} : v.fields? = some fields → fields.get? name = some x →
      Part w x → Part w v

/-- A condition on values that null meets, and with a value its elements and its fields. -/
structure Hereditary (p : Value → Prop) : Prop where
  null : p .null
  element {v x : Value} {items : List Value} : p v → v.elements? = some items → x ∈ items → p x
  field {v x : Value} {fields : Fields} {name : Text} : p v → v.fields? = some fields → fields.get? name = some x → p x

/-! ## Conditions on all parts -/

/-- All parts of a value meet a condition. -/
def Throughout (q : Value → Prop) (v : Value) : Prop := ∀ w, Part w v → q w

variable {q : Value → Prop} {v : Value}

theorem hereditary_throughout (hnull : q .null) : Hereditary (Throughout q) where
  null := by
    intro w hw
    cases hw with
    | self => exact hnull
    | element h => cases h
    | field h => cases h
  element hv hi hx w hw := hv w (.element hi hx hw)
  field hv hf hx w hw := hv w (.field hf hx hw)

/-- A condition is met throughout a value if the value meets it, and its elements and fields do throughout. -/
theorem throughout_of_parts (hq : q v) (he : ∀ items, v.elements? = some items → ∀ x ∈ items, x.Throughout q)
    (hf : ∀ fields name x, v.fields? = some fields → fields.get? name = some x → x.Throughout q) :
    v.Throughout q := by
  intro w hw
  cases hw with
  | self => exact hq
  | element hi hx hw => exact he _ hi _ hx w hw
  | field hfields hx hw => exact hf _ _ _ hfields hx w hw

/-- All parts of a value have a printed text. -/
def Prints : Value → Prop := Throughout fun w => ∃ t, w.printed = .ok t

theorem hereditary_prints : Hereditary Prints := hereditary_throughout ⟨[], rfl⟩

end Stencil.Value
