import Stencil.Slots
import Stencil.Value.Printed

/-!
# Computations of a resolution

* **Resolutions** (`Resolve`) hold texts in slots, count the pass budgets that ran out, and may fail (`Fault`). The
  slots and the count survive a failure.
-/

namespace Stencil

/-- Why a text is not resolved. -/
inductive Fault where
  /-- A value to be shown has no text. -/
  | value (fault : TextFault)
  /-- A slot token has too many digits. -/
  | overlongToken (count : Nat)
  /-- Loops are entered deeper than allowed. -/
  | tooDeep
  deriving DecidableEq, Repr

/-- The wording of a fault. -/
def Fault.message : Fault → Text
  | value fault => fault.message
  | overlongToken count => readLimitMessage count
  | tooDeep => "maximum recursion depth exceeded".text

/-- What a resolution leaves besides its text. -/
structure Ledger where
  /-- The texts held for loop elements. -/
  slots : Slots
  /-- How often a pass budget ran out before the text settled. -/
  exhausted : Nat

/-- The ledger before any resolution. -/
def Ledger.empty : Ledger := ⟨[], 0⟩

/-- A computation that fills a ledger and may fail. -/
abbrev Resolve := EStateM Fault Ledger

namespace Resolve

/-- Holds a text; the result is its token. -/
def hold (t : Text) : Resolve Text := do
  let ledger ← get
  let (slots, token) := ledger.slots.hold t
  set { ledger with slots }
  return token

/-- Holds the printed text of a value. -/
def holdValue (v : Value) : Resolve Text :=
  match v.printed with
  | .ok t => hold t
  | .error fault => throw (.value fault)

/-- Counts a pass budget that ran out. -/
def noteExhausted : Resolve Unit := modify fun ledger => { ledger with exhausted := ledger.exhausted + 1 }

end Resolve

end Stencil
