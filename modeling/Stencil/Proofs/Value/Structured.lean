import Mathlib.Logic.Relation
import Stencil.Proofs.Results
import Stencil.Value.Printed

/-!
# Structured texts

* **Containers** have a structured text if all that they hold have one: the texts of their elements
  (`structuredItems?_eq`) or of their entries (`structuredEntries?_eq`), between brackets.
* **Refusals** (`Value.Refused`): a value that JSON has no form for. A container that holds one at any depth
  (`Value.Holds`) has no structured text at all and shows `complexText` (`printed_of_refused`). Of a value that holds
  itself this is so because what a value holds is smaller unless the value is a knot: a way back to its start leads
  through a knot.
-/

namespace Stencil.Value

variable {v w : Value}

/-! ## Containers -/

/-- The structured text of an entry. -/
def structuredField? (level : Nat) (e : Value × Value) : Option Text := do
  let key ← keyText? e.1
  let text ← structuredAt? level e.2
  return stringLiteral key ++ ": ".text ++ text

theorem structuredItems?_eq (level : Nat) (items : List Value) :
    structuredItems? level items = items.mapM (structuredAt? level) := by
  induction items with
  | nil => rfl
  | cons x xs ih => rw [structuredItems?, List.mapM_cons, ih]

theorem structuredEntries?_eq (level : Nat) (entries : Fields) :
    structuredEntries? level entries = entries.mapM (structuredField? level) := by
  induction entries with
  | nil => rfl
  | cons e rest ih =>
    obtain ⟨k, x⟩ := e
    rw [structuredEntries?, List.mapM_cons, ih, structuredField?]
    cases keyText? k <;> cases structuredAt? level x <;> rfl

/-! ## What a value holds -/

/-- A value holds its elements and, if it is a record, the values of its entries. -/
inductive Holds (v : Value) : Value → Prop
  | element {x : Value} {items : List Value} : v.elements? = some items → x ∈ items → Holds v x
  | entry {k x : Value} {entries : Fields} : v.opened = .record entries → (k, x) ∈ entries → Holds v x

/-- A value without a structured text at any level of nesting. -/
def Unstructured (v : Value) : Prop := ∀ level, structuredAt? level v = none

theorem unstructured_knot (parts : List Value) (n : Nat) : Unstructured (.knot parts n) := fun _ => rfl

/-- What holds something is a knot, a sequence or a record. -/
theorem Holds.container (h : Holds v w) : (∃ parts n, v = .knot parts n) ∨
    (∃ items, (v = .list items ∨ v = .tuple items) ∧ w ∈ items) ∨
    ∃ entries k, v = .record entries ∧ (k, w) ∈ entries := by
  cases h with
  | element hitems hw =>
    cases v with
    | knot parts n => exact .inl ⟨parts, n, rfl⟩
    | list items =>
      cases hitems
      exact .inr (.inl ⟨_, .inl rfl, hw⟩)
    | tuple items =>
      cases hitems
      exact .inr (.inl ⟨_, .inr rfl, hw⟩)
    | _ => cases hitems
  | entry hentries hw =>
    cases v with
    | knot parts n => exact .inl ⟨parts, n, rfl⟩
    | record entries =>
      cases hentries
      exact .inr (.inr ⟨_, _, rfl, hw⟩)
    | _ => cases hentries

/-- What holds a value without a structured text has none. -/
theorem Holds.unstructured (h : Holds v w) (hw : Unstructured w) : Unstructured v := by
  intro level
  obtain ⟨parts, n, rfl⟩ | ⟨items, rfl | rfl, hmem⟩ | ⟨entries, k, rfl, hmem⟩ := h.container
  · rfl
  · rw [structuredAt?, structuredItems?_eq, mapM_eq_none hmem (hw _)]
    rfl
  · rw [structuredAt?, structuredItems?_eq, mapM_eq_none hmem (hw _)]
    rfl
  · have hentry : structuredField? (level + 1) (k, w) = none := by
      rw [structuredField?, hw]
      cases keyText? k <;> rfl
    rw [structuredAt?, structuredEntries?_eq, mapM_eq_none hmem hentry]
    rfl

/-- What a value holds is smaller, unless the value is a knot. -/
theorem Holds.sizeOf_lt (h : Holds v w) : Unstructured v ∨ sizeOf w < sizeOf v := by
  obtain ⟨parts, n, rfl⟩ | ⟨items, rfl | rfl, hmem⟩ | ⟨entries, k, rfl, hmem⟩ := h.container
  · exact .inl (unstructured_knot parts n)
  · have hlt := List.sizeOf_lt_of_mem hmem
    rw [list.sizeOf_spec]
    omega
  · have hlt := List.sizeOf_lt_of_mem hmem
    rw [tuple.sizeOf_spec]
    omega
  · have hlt := List.sizeOf_lt_of_mem hmem
    rw [Prod.mk.sizeOf_spec] at hlt
    rw [record.sizeOf_spec]
    omega

/-- A chain of values that hold one another ends with a smaller value, unless one of them is a knot. -/
theorem sizeOf_lt_of_transGen (h : Relation.TransGen Holds v w) : Unstructured v ∨ sizeOf w < sizeOf v := by
  induction h using Relation.TransGen.head_induction_on with
  | single h => exact h.sizeOf_lt
  | head h _ ih =>
    obtain hnone | hlt := ih
    · exact .inl (h.unstructured hnone)
    · exact h.sizeOf_lt.imp_right (Nat.lt_trans hlt)

/-! ## Refusals -/

/-- Whether a value may be the key of an entry in a structured text: a text, a number, a boolean or null. -/
def isScalar : Value → Bool
  | null | bool _ | int _ | float _ | str _ => true
  | _ => false

/-- A value that JSON has no form for: a mapping that is no record, a value known only by its text or without one,
a value that holds itself, and a record with a key that is no scalar. -/
inductive Refused (v : Value) : Prop
  | view {entries : Fields} : v.opened = .view entries → Refused v
  | foreign {text : Text} : v.opened = .foreign text → Refused v
  | silent {reason : Text} : v.opened = .silent reason → Refused v
  | cyclic : Relation.TransGen Holds v v → Refused v
  | key {k x : Value} {entries : Fields} : v.opened = .record entries → (k, x) ∈ entries → k.isScalar = false →
      Refused v

theorem keyText?_eq_none {k : Value} (h : k.isScalar = false) : keyText? k = none := by
  cases k <;> first | rfl | cases h

/-- A refused value has no structured text. -/
theorem Refused.unstructured (h : Refused v) : Unstructured v := by
  intro level
  cases h with
  | view h => cases v <;> first | rfl | cases h
  | foreign h => cases v <;> first | rfl | cases h
  | silent h => cases v <;> first | rfl | cases h
  | cyclic h =>
    obtain hnone | hlt := sizeOf_lt_of_transGen h
    · exact hnone level
    · exact absurd hlt (Nat.lt_irrefl _)
  | @key k x entries hentries hmem hk =>
    cases v with
    | knot parts n => rfl
    | record entries =>
      cases hentries
      have hentry : structuredField? (level + 1) (k, x) = none := by
        rw [structuredField?, keyText?_eq_none hk]
        rfl
      rw [structuredAt?, structuredEntries?_eq, mapM_eq_none hmem hentry]
      rfl
    | _ => cases hentries

/-- Whether a value is a list, a tuple or a record. -/
def isContainer (v : Value) : Bool :=
  match v.opened with
  | list _ | tuple _ | record _ => true
  | _ => false

/-- A container shows its structured text. -/
theorem printed_eq (hv : v.isContainer = true) : v.printed = .ok ((structured? v).getD complexText) := by
  cases v <;> first | rfl | cases hv

/-- **A container that holds a refused value, at any depth, is refused as a whole.** -/
theorem printed_of_refused (hv : v.isContainer = true) (hw : Relation.ReflTransGen Holds v w) (h : Refused w) :
    v.printed = .ok complexText := by
  have hnone : Unstructured v := by
    clear hv
    induction hw using Relation.ReflTransGen.head_induction_on with
    | refl => exact h.unstructured
    | head hstep _ ih => exact hstep.unstructured ih
  have hstructured : structured? v = none := hnone 0
  rw [printed_eq hv, hstructured]
  rfl

end Stencil.Value
