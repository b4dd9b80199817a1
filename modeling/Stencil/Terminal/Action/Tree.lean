import Stencil.Terminal.Action.Token

/-!
# Expressions as trees

* **Trees** (`Tree`): how the rules of expressions match tokens.
* **Words** (`Tree.name`): how messages speak of an expression, and of the part of one that nothing can be assigned to
  (`Tree.unassignable?`).
-/

namespace Stencil.Action

/-! ## Rules and trees -/

/-- The rules of expressions. -/
inductive Rule where
  | whole
  | expressions
  | expression
  | yieldForm
  | starExpressions
  | starExpression
  | starItems
  | starItem
  | assignment
  | item
  | disjunction
  | conjunction
  | inversion
  | comparison
  | union
  | exclusion
  | intersection
  | shift
  | sum
  | term
  | factor
  | power
  | awaited
  | primary
  | member
  | call
  | atom
  | group
  | tuple
  | generator
  | set
  | dictionary
  | setFilter
  | dictionaryFilter
  | pair
  | pairs
  | pairOrSpread
  | clauses
  | clause
  | quotedTexts
  | lambda
  | lambdaParameters
  | arguments
  | positional
  | keyed
  | spread
  | keyOrSpread
  | keyOrDoubleSpread
  | targets
  | target
  | targetAtom
  | targetBase
  deriving DecidableEq, Hashable, Repr

/-- How tokens are matched. A rule that matches by a single tree alone is not in a tree. -/
inductive Tree where
  | token (t : Token)
  | node (rule : Rule) (children : List Tree)
  deriving Repr

/-! ## The names of expressions -/

namespace Tree

/-- The text of a token that a tree is. -/
def tokenText? : Tree → Option Text
  | .token t => some t.text
  | .node _ _ => none

/-- Whether a tree is a certain sign or keyword. -/
def isSign (sign : String) (t : Tree) : Bool := t.tokenText? == some sign.text

/-- The rule of a tree. -/
def rule? : Tree → Option Rule
  | .token _ => none
  | .node r _ => some r

/-- The children of a tree. -/
def children : Tree → List Tree
  | .token _ => []
  | .node _ ts => ts

/-- The words for the last part of a primary expression. -/
def partName (last : Option Tree) : Text :=
  match last.bind rule? with
  | some .member => "attribute".text
  | _ => "function call".text

/-- The words for a token. -/
def tokenName (t : Token) : Text :=
  match t.kind with
  | .word => if keywords.contains t.text then t.text else "name".text
  | .sign => "ellipsis".text
  | _ => "literal".text

/-- Whether a tree is a text in quotes that is put together from expressions. -/
def isComposed : Tree → Bool
  | .token t => t.isComposed
  | .node _ _ => false

/-- The words for texts in quotes. -/
def quotedName (ts : List Tree) : Text :=
  if ts.any isComposed then "f-string expression".text else "literal".text

/-- The words for a kind of expression. -/
def name : Tree → Text
  | .token t => if t.kind = .quoted then quotedName [.token t] else tokenName t
  | .node .group [_, t, _] => t.name
  | .node .quotedTexts ts => quotedName ts
  | .node .primary ts => partName ts.getLast?
  | .node .awaited _ => "await expression".text
  | .node .tuple _ => "tuple".text
  | .node .generator _ => "generator expression".text
  | .node .set _ => "set display".text
  | .node .dictionary _ => "dict literal".text
  | .node .setFilter _ => "set comprehension".text
  | .node .dictionaryFilter _ => "dict comprehension".text
  | .node .yieldForm _ => "yield expression".text
  | .node .lambda _ => "lambda".text
  | .node .comparison _ => "comparison".text
  | .node .assignment _ => "named expression".text
  | .node .expression _ => "conditional expression".text
  | .node .starExpression _ => "starred".text
  | .node .starItem _ => "starred".text
  | .node .spread _ => "starred".text
  | .node .expressions _ => "tuple".text
  | .node .starExpressions _ => "tuple".text
  | .node _ _ => "expression".text

/-- Whether a tree is a bracket, a comma or a star. -/
def isPunctuation (t : Tree) : Bool := ["(", ")", ",", "*"].any t.isSign

mutual

/-- The words for the part of a tree that nothing can be assigned to. -/
def unassignable? : Tree → Option Text
  | .token t => if t.kind = .word ∧ !keywords.contains t.text then none else some (Tree.token t).name
  | .node .group ts => firstUnassignable? ts
  | .node .tuple ts => firstUnassignable? ts
  | .node .starExpressions ts => firstUnassignable? ts
  | .node .starItems ts => firstUnassignable? ts
  | .node .starExpression ts => firstUnassignable? ts
  | .node .starItem ts => firstUnassignable? ts
  | .node .comparison ts =>
    match ts with
    | t :: .token sign :: _ => if sign.text = [Point.char 'i', 'n'] then t.unassignable? else none
    | _ => none
  | .node .primary ts =>
    match ts.getLast?.bind rule? with
    | some .member => none
    | _ => some (Tree.node .primary ts).name
  | .node r ts => some (Tree.node r ts).name

/-- The words for the first part of trees that nothing can be assigned to. Brackets, commas and stars are no parts. -/
def firstUnassignable? : List Tree → Option Text
  | [] => none
  | t :: ts => if t.isPunctuation then firstUnassignable? ts else t.unassignable?.or (firstUnassignable? ts)

end

/-- Whether a tree is a word that once was a statement of its own, perhaps in brackets. -/
def isStatement : Tree → Bool
  | .node .group [_, t, _] => isStatement t
  | t => t.isSign "print" || t.isSign "exec"

end Tree

end Stencil.Action
