import Stencil.Text.Quoted
import Stencil.Value.Structured

/-!
# The printed text of a value

* **Printed text** (`Value.printed`): what a placeholder shows. Null shows nothing, text shows itself, a container its
  structured text or `complexText` when it has none.
* **Plain text** (`Value.plain`): what a message or, unless it counts as nothing, a table cell shows. Containers show
  their elements in quoted form (`Value.quotedForm`), and a knot shows its parts as dots where they stand inside it.
* Both fail for a value that refuses to give its text and for an integer with too many digits (`TextFault`).
-/

namespace Stencil

/-- Why a value has no text. -/
inductive TextFault where
  /-- The value refuses, for a reason. -/
  | silent (reason : Text)
  /-- The value is an integer with more digits than the limit. -/
  | tooManyDigits
  deriving DecidableEq, Repr

/-- The wording of a fault. -/
def TextFault.message : TextFault → Text
  | silent reason => reason
  | tooManyDigits => writeLimitMessage

namespace Value

/-- What stands for a container that has no structured text. -/
def complexText : Text := "[Complex Object]".text

/-- How plain text spells the numbers that have no digits. -/
def plainSpelling : Spelling := ⟨"nan".text, "inf".text⟩

/-- The decimal digits of an integer. -/
def digits (n : Int) : Except TextFault Text :=
  match digits? n with
  | some t => .ok t
  | none => .error .tooManyDigits

/-- What a placeholder shows for the value. -/
def printed : Value → Except TextFault Text
  | null => .ok []
  | bool b => .ok (if b then "true".text else "false".text)
  | int n => digits n
  | float x => .ok (x.text plainSpelling)
  | str t => .ok t
  | foreign t => .ok t
  | silent reason => .error (.silent reason)
  | v => .ok ((structured? v).getD complexText)

mutual

/-- The form that a value has inside a container, with texts quoted. -/
def quotedForm : Value → Except TextFault Text
  | null => .ok "None".text
  | bool b => .ok (if b then "True".text else "False".text)
  | int n => digits n
  | float x => .ok (x.text plainSpelling)
  | str t => .ok (Text.quoted t)
  | list items => do
    let parts ← quotedItems items
    return '[' :: (Text.join ", ".text parts ++ "]".text)
  | tuple items => do
    let parts ← quotedItems items
    let closing := if parts.length = 1 then ",)".text else [')']
    return '(' :: (Text.join ", ".text parts ++ closing)
  | record entries => do
    let parts ← quotedEntries entries
    return '{' :: (Text.join ", ".text parts ++ "\x7d".text)
  | view entries => do
    let parts ← quotedEntries entries
    return "mappingproxy(".text ++ "\x7b".text ++ (Text.join ", ".text parts ++ "\x7d)".text)
  | foreign t => .ok t
  | silent reason => .error (.silent reason)
  | part _ => .ok "[...]".text
  | knot parts n => do return (← quotedItems parts)[n]?.getD []

/-- The quoted forms of the elements of a sequence. -/
def quotedItems : List Value → Except TextFault (List Text)
  | [] => .ok []
  | v :: vs => do
    let text ← quotedForm v
    return text :: (← quotedItems vs)

/-- The quoted forms of the entries of a mapping. -/
def quotedEntries : List (Value × Value) → Except TextFault (List Text)
  | [] => .ok []
  | (k, v) :: rest => do
    let key ← quotedForm k
    let text ← quotedForm v
    return (key ++ ": ".text ++ text) :: (← quotedEntries rest)

end

/-- What a message or a table cell shows for the value. -/
def plain : Value → Except TextFault Text
  | str t => .ok t
  | view entries => quotedForm (record entries)
  | v => quotedForm v

/-- Whether the value counts as nothing: null, false, zero, and whatever is empty. -/
def isEmpty : Value → Bool
  | null => true
  | bool b => !b
  | int n => n == 0
  | float x => x.isZero
  | str t => t.isEmpty
  | list items => items.isEmpty
  | tuple items => items.isEmpty
  | record entries => entries.isEmpty
  | view entries => entries.isEmpty
  | _ => false

/-- What a table cell shows for the value: nothing where it counts as nothing. -/
def cellText (v : Value) : Except TextFault Text := if v.isEmpty then .ok [] else v.plain

end Value

end Stencil
