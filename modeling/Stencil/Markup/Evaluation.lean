import Stencil.Markup.Tree
import Stencil.Scope
import Stencil.Substitution

/-!
# The meaning of a tree

* **Shown values** (`Scope.shown?`): the value that a placeholder shows at a place. Reserved names mean the metadata;
  the innermost element answers for itself, for its index and for its fields, the others for their fields alone; the
  variables come last.
* **Evaluation** (`Markup.eval`): the text that a tree means in a scope, by recursion on the tree. A conditional means
  one of its branches, a loop its body for each element in turn.
* **Unrolling** (`Markup.unrolled`): the text of a tree with its conditionals decided and its loops unrolled. The
  placeholders that an element answers for are filled, the others stay as written.
-/

namespace Stencil

/-- The value of the first field of a name among those of some frames and the variables. -/
def Scope.fieldOrVariable? (s : Scope) (name : Text) : Option Value :=
  (s.frames.findSome? fun f => f.fields.get? name).or (s.vars.get? name)

/-- The value that a placeholder shows, if it shows one. -/
def Scope.shown? (m : Metadata) (s : Scope) (name : Text) : Option Value :=
  if reservedNames.contains name then m.get? name
  else match s.frames with
    | [] => s.vars.get? name
    | f :: _ =>
      if name = indexName then some (.int f.index)
      else if name = thisName ∨ thisPoint.isPrefixOf name then some (s.lookup name)
      else s.fieldOrVariable? name

/-- The value that the elements around a place show for a name. -/
def Scope.element? (s : Scope) (name : Text) : Option Value :=
  if reservedNames.contains name then none
  else match s.frames with
    | [] => none
    | f :: _ =>
      if name = indexName then some (.int f.index)
      else if name = thisName ∨ thisPoint.isPrefixOf name then some (s.lookup name)
      else s.frames.findSome? fun f => f.fields.get? name

namespace Markup

/-- What a placeholder means: the printed text of its value, or itself. -/
def evalPlace (m : Metadata) (s : Scope) (name : Text) : Except TextFault Text :=
  match s.shown? m name with
  | some v => v.printed
  | none => .ok (placeText name)

/-- The elements of a loop with their indices. Anything but a sequence has none. -/
def loopItems (s : Scope) (name : Text) : List (Value × Nat) := ((s.lookup name).elements?.getD []).zipIdx

/-- The text that a tree means in a scope. -/
def eval (m : Metadata) : Markup → Scope → Except TextFault Text
  | done, _ => .ok []
  | text t rest, s => do return t ++ (← rest.eval m s)
  | place name rest, s => do
    let here ← evalPlace m s name
    return here ++ (← rest.eval m s)
  | when name yes rest, s => do
    let here ← if s.holds name then yes.eval m s else .ok []
    return here ++ (← rest.eval m s)
  | choice name yes no rest, s => do
    let here ← if s.holds name then yes.eval m s else no.eval m s
    return here ++ (← rest.eval m s)
  | each name body rest, s => do
    let here ← (loopItems s name).mapM fun (item, index) => body.eval m (s.enter index item)
    return here.flatten ++ (← rest.eval m s)

/-- What a placeholder means, given what the names mean that no element answers for. -/
def placeWith (outside : Text → Except TextFault Text) (s : Scope) (name : Text) : Except TextFault Text :=
  match s.element? name with
  | some v => v.printed
  | none => outside name

/-- The text that a tree means in a scope, given what the names mean that no element answers for. -/
def evalWith (outside : Text → Except TextFault Text) : Markup → Scope → Except TextFault Text
  | done, _ => .ok []
  | text t rest, s => do return t ++ (← rest.evalWith outside s)
  | place name rest, s => do
    let here ← placeWith outside s name
    return here ++ (← rest.evalWith outside s)
  | when name yes rest, s => do
    let here ← if s.holds name then yes.evalWith outside s else .ok []
    return here ++ (← rest.evalWith outside s)
  | choice name yes no rest, s => do
    let here ← if s.holds name then yes.evalWith outside s else no.evalWith outside s
    return here ++ (← rest.evalWith outside s)
  | each name body rest, s => do
    let here ← (loopItems s name).mapM fun (item, index) => body.evalWith outside (s.enter index item)
    return here.flatten ++ (← rest.evalWith outside s)

/-- The text of a tree with its directives resolved. -/
def unrolled (m : Markup) (s : Scope) : Except TextFault Text := m.evalWith (fun name => .ok (placeText name)) s

end Markup

end Stencil
