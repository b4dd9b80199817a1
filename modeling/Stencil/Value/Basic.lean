import Stencil.Decimal.Binary64
import Stencil.Text.Basic

/-!
# Values

* **Values** (`Value`): what the variables of a template may hold.
* **Knots** (`opened`): a value that holds itself, directly or not, is one of the parts of a knot. Opening it shows its
  elements, each part among them as the knot seen from there.
* **Truth** (`isTruthy`): only null, false, the empty text and the empty sequences are false. Zero and the empty
  mapping are true.
* **Records** (`Fields`): entries in the order of their keys' first insertion. `get?` reads a field, `insert` replaces
  a value in place or appends an entry, `update` inserts many.
-/

namespace Stencil

/-- A value of a variable, a loop element or a metadata field. -/
inductive Value where
  | null
  | bool (b : Bool)
  | int (n : Int)
  | float (x : Binary64)
  | str (t : Text)
  /-- A sequence that can grow. -/
  | list (items : List Value)
  /-- A sequence of fixed length. -/
  | tuple (items : List Value)
  /-- A record of entries, in the order of insertion. -/
  | record (entries : List (Value × Value))
  /-- A mapping that is no record: its fields can be read, and it has no structured text. -/
  | view (entries : List (Value × Value))
  /-- A value known only by its text. -/
  | foreign (text : Text)
  /-- A value that refuses to give its text, with the reason. -/
  | silent (reason : Text)
  /-- A part of the knot around it. -/
  | part (n : Nat)
  /-- One of the parts of a knot: containers that hold one another, each held one written as a part. -/
  | knot (parts : List Value) (n : Nat)

namespace Value

instance : Inhabited Value := ⟨null⟩

/-! ## Knots -/

/-- A list that is its own single element. -/
def cycle : Value := knot [list [part 0]] 0

/-- What a container of a knot holds, on its own. -/
def tie (parts : List Value) : Value → Value
  | part n => knot parts n
  | v => v

/-- A container of a knot, on its own. -/
def tieAll (parts : List Value) : Value → Value
  | list items => list (items.map (tie parts))
  | tuple items => tuple (items.map (tie parts))
  | record entries => record (entries.map fun (k, v) => (k, tie parts v))
  | v => v

/-- The value, as a container where it is a knot. -/
def opened : Value → Value
  | knot parts n => tieAll parts (parts[n]?.getD null)
  | v => v

/-- The elements of a sequence. -/
def elements? (v : Value) : Option (List Value) :=
  match v.opened with
  | list items => some items
  | tuple items => some items
  | _ => none

/-- The list that is its own element has no other. -/
example : cycle.elements? = some [cycle] := rfl

/-! ## Truth -/

/-- Whether a conditional takes its first branch for the value. -/
def isTruthy (v : Value) : Bool :=
  match v.opened with
  | null => false
  | bool b => b
  | str t => !t.isEmpty
  | list items => !items.isEmpty
  | tuple items => !items.isEmpty
  | _ => true

/-! ## Keys -/

/-- The number that a value counts as, among booleans, integers and integral floating point numbers. -/
def asInt? : Value → Option Int
  | bool b => some (if b then 1 else 0)
  | int n => some n
  | _ => none

mutual

/-- Whether two values are the same key. Numbers and booleans are compared by what they count, and a value known only
by its text is the same key as no other. -/
def sameKey : Value → Value → Bool
  | null, null => true
  | str t, str u => t == u
  | float x, float y => x.equal y
  | float x, v => match v.asInt? with
    | some n => x.equalInt n
    | none => false
  | v, float y => match v.asInt? with
    | some n => y.equalInt n
    | none => false
  | tuple xs, tuple ys => sameKeys xs ys
  | v, w => match v.asInt?, w.asInt? with
    | some n, some m => n == m
    | _, _ => false

/-- Whether two sequences hold the same keys in the same order. -/
def sameKeys : List Value → List Value → Bool
  | [], [] => true
  | x :: xs, y :: ys => sameKey x y && sameKeys xs ys
  | _, _ => false

end

end Value

/-- The entries of a mapping, in the order of insertion. -/
abbrev Fields := List (Value × Value)

namespace Fields

/-- The value of a named field. -/
def get? (fields : Fields) (name : Text) : Option Value :=
  match fields with
  | [] => none
  | (.str key, v) :: rest => if key = name then some v else get? rest name
  | _ :: rest => get? rest name

/-- Whether there is a field of the name. -/
def has (fields : Fields) (name : Text) : Bool := (get? fields name).isSome

/-- Gives a key a value: in place when it is there, at the end when it is not. -/
def insertWith (same : Value → Value → Bool) (key v : Value) : Fields → Fields
  | [] => [(key, v)]
  | (k, w) :: rest => if same k key then (k, v) :: rest else (k, w) :: insertWith same key v rest

/-- Gives a key a value. -/
def insert (fields : Fields) (key v : Value) : Fields := insertWith Value.sameKey key v fields

/-- The entries of a list, each inserted after those before it. -/
def ofList (entries : List (Value × Value)) : Fields := entries.foldl (fun acc (k, v) => insert acc k v) []

/-- The fields with those of another mapping inserted after them. -/
def update (fields extra : Fields) : Fields := extra.foldl (fun acc (k, v) => insert acc k v) fields

/-- The fields without the named one. -/
def erase (fields : Fields) (name : Text) : Fields :=
  fields.filter fun
    | (.str key, _) => key ≠ name
    | _ => true

end Fields

namespace Value

/-- The fields of a mapping. -/
def fields? (v : Value) : Option Fields :=
  match v.opened with
  | record entries => some entries
  | view entries => some entries
  | _ => none

/-- The text of a text value. -/
def text? : Value → Option Text
  | str t => some t
  | _ => none

end Value

end Stencil
