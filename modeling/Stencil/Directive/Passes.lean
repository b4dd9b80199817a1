import Stencil.Directive.Resolution
import Stencil.Markup.Tag
import Stencil.Scope

/-!
# Resolving directives in passes

* **Conditionals** (`resolveConditionals`): the closed conditionals of a text are replaced by one of their branches,
  from left to right; what is put in place is not read again in the same turn. A turn takes either the conditionals
  with a second branch or those without one. It steps inside the others and into tags that are never closed. Closed
  loops are passed over as they are: their bodies are resolved for each element.
* **One pass** (`onePass`): the conditionals with a second branch, then those without, then the loops. A pass never
  reads what it put in place, so inner directives wait for the next one.
* **Passes** (`runPasses`): repeated until the text settles or the budget is spent. A text that did not settle comes
  back as it stands.
* **Loops** (`expandLoop`): the body is resolved once per element of a sequence, in the scope of the element and with
  a budget of its own, and then the placeholders that the element answers for are filled with slot tokens.
* Entering a loop takes one level off a depth allowance; without any left the resolution fails. `depthAllowance` has
  more levels than the text has characters.
-/

namespace Stencil

/-! ## Conditionals -/

/-- What a turn finds in a text. -/
inductive Block where
  /-- A closed loop, as written. -/
  | loop (source : Text)
  /-- A conditional that belongs to the turn. -/
  | choice (c : Conditional)
  deriving DecidableEq, Repr

/-- The loop or conditional at the head of a text that a turn does not step into. -/
def block? (withElse : Bool) : Text.Recogniser Block := fun t =>
  match loop? t with
  | some (_, width) => some (.loop (t.take width), width)
  | none =>
    match conditional? t with
    | some (c, width) => if c.no.isSome = withElse then some (.choice c, width) else none
    | none => none

/-- The branch of a conditional. -/
def Conditional.branch (c : Conditional) (holds : Bool) : Text := if holds then c.yes else c.no.getD []

/-- What a turn writes for a block. -/
def Block.resolve (holds : Text → Bool) : Block → Text
  | loop source => source
  | choice c => c.branch (holds c.name)

/-- A turn over the conditionals of a text, decided by the names that hold. -/
def resolveConditionals (withElse : Bool) (holds : Text → Bool) (t : Text) : Text :=
  Text.replace (block? withElse) (Block.resolve holds) t

/-! ## Budgets -/

/-- A budget of at least one pass. -/
abbrev PassBudget := { budget : Nat // 0 < budget }

/-- The budget where none is given. -/
def defaultPasses : PassBudget := ⟨10, by decide⟩

/-- A number of passes below one. -/
structure BudgetError where
  given : Int
  deriving DecidableEq, Repr

/-- The wording of an error. -/
def BudgetError.message (e : BudgetError) : Text := "max_passes must be >= 1, got ".text ++ Text.ofInt e.given

/-- The budget that a number gives. -/
def passBudget (n : Int) : Except BudgetError PassBudget :=
  if h : 0 < n then .ok ⟨n.toNat, by omega⟩ else .error ⟨n⟩

/-! ## Elements -/

/-- What an element puts in the place of a placeholder. Reserved names and names that it does not know stay. -/
def fillPlaceholder (scope : Scope) (frame : Frame) (p : Placeholder) : Resolve Text :=
  if reservedNames.contains p.name then return p.source
  else if p.name = indexName then return Text.ofNat frame.index
  else if p.name = thisName ∨ thisPoint.isPrefixOf p.name then Resolve.holdValue (scope.lookup p.name)
  else match frame.fields.get? p.name with
    | some v => Resolve.holdValue v
    | none => return p.source

/-- The text of a loop body for one element, given how texts are resolved in a scope. -/
def expandElement (resolve : Scope → Text → Resolve Text) (scope : Scope) (body : Text) (frame : Frame) :
    Resolve Text := do
  let inner := scope.enter frame.index frame.item
  let resolved ← resolve inner body
  Text.replaceM placeholder? (fillPlaceholder inner frame) resolved

/-- The texts of a loop body for the elements from an index on, one after the other. -/
def expandElements (resolve : Scope → Text → Resolve Text) (scope : Scope) (body : Text) :
    Nat → List Value → Resolve Text
  | _, [] => return []
  | index, item :: items => do
    let here ← expandElement resolve scope body ⟨index, item⟩
    return here ++ (← expandElements resolve scope body (index + 1) items)

/-- The text of a loop. A loop over anything but a sequence is empty. -/
def expandLoop (resolve : Scope → Text → Resolve Text) (scope : Scope) (l : Loop) : Resolve Text :=
  match (scope.lookup l.name).elements? with
  | some items => expandElements resolve scope l.body 0 items
  | none => return []

/-! ## Passes -/

/-- One pass over a text. -/
def onePass (resolve : Scope → Text → Resolve Text) (scope : Scope) (t : Text) : Resolve Text :=
  let t := resolveConditionals true scope.holds t
  let t := resolveConditionals false scope.holds t
  Text.replaceM loop? (expandLoop resolve scope) t

/-- Repeats a step until the text settles or the budget is spent. -/
def settle (step : Text → Resolve Text) : Nat → Text → Resolve Text
  | 0, t => do
    Resolve.noteExhausted
    return t
  | budget + 1, t => do
    let resolved ← step t
    if resolved = t then return resolved else settle step budget resolved

/-- Passes over a text, each loop below it with the same budget. -/
def runPasses (budget : Nat) : Nat → Scope → Text → Resolve Text
  | 0, _, _ => throw .tooDeep
  | depth + 1, scope, t => settle (onePass (runPasses budget depth) scope) budget t

/-! ## Texts -/

/-- The levels of loops that the resolution of a text may enter. -/
def depthAllowance (t : Text) : Nat := t.length + 200

/-- One pass over a text outside all loops; loop bodies have the default budget. -/
def resolveOnePass (t : Text) (vars : Fields) : Resolve Text :=
  onePass (runPasses defaultPasses.val (depthAllowance t)) (.outer vars) t

/-- The text with its directives resolved. -/
def resolveDirectives (budget : Nat) (t : Text) (vars : Fields) : Resolve Text :=
  runPasses budget (depthAllowance t) (.outer vars) t

/-- The outcome of a resolution on its own, with the held texts put back. -/
def Resolve.alone (r : Resolve Text) : Except Fault Text :=
  match r.run .empty with
  | .ok t ledger => (ledger.slots.restore t).mapError .overlongToken
  | .error fault _ => .error fault

end Stencil
