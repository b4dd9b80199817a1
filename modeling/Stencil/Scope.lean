import Stencil.Markup.Tag
import Stencil.Value.Basic

/-!
# Scopes

* **Scopes** (`Scope`): the variables of a template and the loop elements around a place of it, the innermost first.
* **Names** (`Scope.get?`): each frame answers for the element itself, for its index and for the fields of its element,
  and passes other names on to the next one; the variables come last.
* **Directive names** (`Scope.lookup`): a name after `this.` reads a field of the innermost element and nothing else.
  What is not bound is null.
-/

namespace Stencil

/-- One step into a loop: the element and its index. -/
structure Frame where
  index : Nat
  item : Value

/-- The fields that an element has. -/
def Frame.fields (f : Frame) : Fields := f.item.fields?.getD []

/-- What the names at a place of a template mean. -/
structure Scope where
  frames : List Frame
  vars : Fields

namespace Scope

/-- The scope outside all loops. -/
def outer (vars : Fields) : Scope := ⟨[], vars⟩

/-- The scope of an element of a loop that stands in the scope. -/
def enter (s : Scope) (index : Nat) (item : Value) : Scope := { s with frames := ⟨index, item⟩ :: s.frames }

/-- The value that some frames and the variables bind to a name. -/
def getFrom? (vars : Fields) (name : Text) : List Frame → Option Value
  | [] => vars.get? name
  | f :: outward =>
    if name = thisName then some f.item
    else if name = indexName then some (.int f.index)
    else match f.fields.get? name with
      | some v => some v
      | none => getFrom? vars name outward

/-- The value bound to a name. -/
def get? (s : Scope) (name : Text) : Option Value := getFrom? s.vars name s.frames

/-- The value that a directive or an element placeholder reads for a name. -/
def lookup (s : Scope) (name : Text) : Value :=
  match Text.after? thisPoint name with
  | some field => ((((s.get? thisName).bind Value.fields?).bind fun fields => fields.get? field)).getD .null
  | none => (s.get? name).getD .null

/-- Whether a conditional on the name takes its first branch. -/
def holds (s : Scope) (name : Text) : Bool := (s.lookup name).isTruthy

end Scope

end Stencil
