import Stencil.Terminal.Action.Reading
import Stencil.Text.Bytes
import Stencil.Text.Quoted

/-!
# Arguments of actions

* **Literals** (`Literal.ofTree`): the values that are written out: numbers, texts, tuples, sets and dictionaries. What
  is put into a set, or is a key, may not be a set or a dictionary itself.
* **Arguments** (`argumentText`): a dotted name may stand before the arguments in brackets, or alone.
* **Faults** (`fault?`): why the arguments cannot be read, or have no value.
-/

namespace Stencil.Action

/-! ## Literals -/

/-- A value that is written out. Only what decides about faults is kept of it. -/
inductive Literal where
  | constant
  | real
  | imaginary
  | tuple (items : List Literal)
  | set
  | dictionary
  deriving Repr

/-- Why an expression has no value. -/
inductive LiteralFault where
  /-- It is no literal. -/
  | malformed
  /-- Another dictionary is spread in it. -/
  | spread
  | unhashable (type : Text)
  | nullCharacter
  /-- Its text holds halves, so that it has no encoding. -/
  | unencodable (f : Text.EncodeFault)
  deriving DecidableEq, Repr

/-- The wording of a fault. -/
def LiteralFault.message : LiteralFault → Text
  | malformed => "malformed node or string".text
  | spread => "malformed node or string: None".text
  | unhashable type => "unhashable type: '".text ++ type ++ "'".text
  | nullCharacter => "source code string cannot contain null bytes".text
  | unencodable f => f.message

namespace Literal

mutual

/-- The type of the first part of a value that may not be in a set. -/
def unhashable? : Literal → Option Text
  | set => some "set".text
  | dictionary => some "dict".text
  | tuple items => firstUnhashable? items
  | _ => none

/-- The type of the first part of values that may not be in a set. -/
def firstUnhashable? : List Literal → Option Text
  | [] => none
  | v :: vs => v.unhashable?.or (firstUnhashable? vs)

end

/-- Nothing, for a value that may be in a set. -/
def hashed (v : Literal) : Except LiteralFault Unit :=
  match v.unhashable? with
  | some type => .error (.unhashable type)
  | none => .ok ()

/-- The number of a token. -/
def ofNumber (t : Token) : Literal :=
  if t.text.getLast?.any fun c : Point => c = 'j' ∨ c = 'J' then imaginary else real

/-- The number that a tree is, perhaps in brackets. -/
def number? : Tree → Option Literal
  | .token t => if t.kind = .number then some (ofNumber t) else none
  | .node .group [_, t, _] => number? t
  | _ => none

/-- The number with a sign that a tree is. -/
def signed? : Tree → Option Literal
  | .node .factor [sign, t] => if sign.isSign "+" || sign.isSign "-" then number? t else none
  | .node .group [_, t, _] => signed? t
  | t => number? t

/-- The value of a token. -/
def ofToken (t : Token) : Except LiteralFault Literal :=
  match t.kind with
  | .number => .ok (ofNumber t)
  | .quoted => if t.isComposed then .error .malformed else .ok constant
  | .sign => .ok constant
  | _ => if ["True", "False", "None"].any (·.text = t.text) then .ok constant else .error .malformed

/-- Whether a tree calls for the empty set. -/
def isEmptySet : List Tree → Bool
  | [t, .node .call [_, _]] => isSet t
  | _ => false
where
  /-- Whether a tree is the name of sets, perhaps in brackets. -/
  isSet : Tree → Bool
    | .node .group [_, t, _] => isSet t
    | t => t.isSign "set"

mutual

/-- The value that a tree writes out. -/
def ofTree : Tree → Except LiteralFault Literal
  | .token t => ofToken t
  | .node .group [_, t, _] => ofTree t
  | .node .quotedTexts ts => do
    for t in ts do
      if let .token t := t then discard (ofToken t)
    return constant
  | .node .tuple ts => do return tuple (← ofTrees ts)
  | .node .expressions ts => do return tuple (← ofTrees ts)
  | .node .set ts => do
    ofElements ts
    return set
  | .node .dictionary ts => do
    ofPairs ts
    return dictionary
  | .node .primary ts => if isEmptySet ts then .ok set else .error .malformed
  | .node .factor ts => match signed? (.node .factor ts) with
    | some v => .ok v
    | none => .error .malformed
  | .node .sum [a, _, b] => match signed? a, number? b with
    | some real, some imaginary => .ok imaginary
    | _, _ => .error .malformed
  | _ => .error .malformed

/-- The values that trees write out, without brackets and commas. -/
def ofTrees : List Tree → Except LiteralFault (List Literal)
  | [] => .ok []
  | t :: ts => do
    let first ← match t with
      | .node .starItems us => ofTrees us
      | t => if t.isPunctuation then pure [] else do pure [← ofTree t]
    return first ++ (← ofTrees ts)

/-- Checks the elements of a set. -/
def ofElements : List Tree → Except LiteralFault Unit
  | [] => .ok ()
  | t :: ts => do
    match t with
    | .node .starItems us => ofElements us
    | t => if t.isPunctuation || t.isSign "\x7b" || t.isSign "\x7d" then pure () else hashed (← ofTree t)
    ofElements ts

/-- Checks the pairs of a dictionary. -/
def ofPairs : List Tree → Except LiteralFault Unit
  | [] => .ok ()
  | t :: ts => do
    match t with
    | .node .pairs us => ofPairs us
    | .node .pair [key, _, value] =>
      let key ← ofTree key
      discard (ofTree value)
      hashed key
    | .node .pairOrSpread _ => throw .spread
    | _ => pure ()
    ofPairs ts

end

end Literal

/-! ## Arguments -/

/-- Why an action cannot be read. -/
inductive ActionFault where
  /-- Its arguments are no expression. -/
  | unreadable (arguments : Text) (fault : ReadingFault)
  /-- Its arguments have no value. -/
  | unusable (fault : LiteralFault)
  deriving DecidableEq, Repr

/-- The wording of a fault of the parameters of a tag. -/
def ActionFault.message (parameters : Text) : ActionFault → Text
  | unreadable arguments fault =>
    "error parsing ".text ++ Text.quoted arguments ++ " in ".text ++ Text.quoted parameters ++ "; ".text
      ++ fault.message
  | unusable fault => "error parsing ".text ++ Text.quoted parameters ++ "; ".text ++ fault.message

/-- The characters of a dotted name. -/
def isNameChar (c : Point) : Bool := Text.isAlphanumeric c || c = '_' || c = '.'

/-- The arguments that the parameters of a tag write. A name alone has none. Brackets within one line that end the
parameters hold the arguments of a name before them, and all else is an argument as it is. -/
def argumentText (parameters : Text) : Text :=
  let t := Text.strip parameters
  match t.dropWhile isNameChar with
  | [] => "()".text
  | c :: cs => if c = '(' ∧ cs.getLast? = some (Point.char ')') ∧ !cs.contains '\n' then c :: cs else t

/-- What is wrong with the parameters of an action. -/
def fault? (parameters : Text) : Option ActionFault :=
  let arguments := argumentText parameters
  match Text.encodeFault? (fun _ => false) arguments with
  | some fault => some (.unusable (.unencodable fault))
  | none =>
    if arguments.contains '\x00' then some (.unusable .nullCharacter)
    else match read arguments with
      | .error fault => some (.unreadable arguments fault)
      | .ok tree =>
        match Literal.ofTree tree with
        | .error fault => some (.unusable fault)
        | .ok _ => none

end Stencil.Action
