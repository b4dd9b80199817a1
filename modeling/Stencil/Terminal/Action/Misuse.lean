import Stencil.Terminal.Action.Tree
import Stencil.Text.Digit

/-!
# Misuse of tokens

* **Causes** (`Misuse`): why tokens are no expression, with the wording.
* **Tests**: what is wrong with trees that match tokens in a way that no expression does.
-/

namespace Stencil.Action

/-! ## What is wrong with tokens -/

/-- Why tokens are no expression. -/
inductive Misuse where
  | invalid
  | unexpectedIndent
  | missingComma
  | missingElse
  | missingCall (name : Text)
  | assignedExpression (what : Text)
  | assignedName
  | assignedHere (what : Text)
  | assigned (what : Text)
  | assignedArgument
  | spreadInGroup
  | doubleSpreadInGroup
  | bareSpread
  | spreadInFilter
  | doubleSpreadInFilter
  | openTarget
  | spreadAfterKeys
  | openGenerator
  | positionalAfterKey
  | positionalAfterSpread
  | missingColon
  | spreadAsValue
  | missingValue
  | mixedBytes
  | wideBytes
  | plainAfterDefault
  | parameterBrackets
  | slashFirst
  | slashTwice
  | slashAfterStar
  | missingSlashComma
  | bareStar
  | starDefault
  | starTwice
  | doubleStarDefault
  | afterDoubleStar
  | missingDefault
  | badEscape (first last : Nat) (reason : Text)
  | badByteEscape (position : Nat)
  | tooManyDigits (count : Nat)
  deriving DecidableEq, Repr

/-- What tokens might mean that are not an equality. -/
def equalityHint : Text := "Maybe you meant '==' ".text

/-- The wording of a misuse. -/
def Misuse.message : Misuse → Text
  | invalid => "invalid syntax".text
  | unexpectedIndent => "unexpected indent".text
  | missingComma => "invalid syntax. Perhaps you forgot a comma?".text
  | missingElse => "expected 'else' after 'if' expression".text
  | missingCall name =>
    "Missing parentheses in call to '".text ++ name ++ "'. Did you mean ".text ++ name ++ "(...)?".text
  | assignedExpression what => "cannot use assignment expressions with ".text ++ what
  | assignedName => "invalid syntax. ".text ++ equalityHint ++ "or ':=' instead of '='?".text
  | assignedHere what =>
    "cannot assign to ".text ++ what ++ " here. ".text ++ equalityHint ++ "instead of '='?".text
  | assigned what => "cannot assign to ".text ++ what
  | assignedArgument => "expression cannot contain assignment, perhaps you meant \"==\"?".text
  | spreadInGroup => "cannot use starred expression here".text
  | doubleSpreadInGroup => "cannot use double starred expression here".text
  | bareSpread => "Invalid star expression".text
  | spreadInFilter => "iterable unpacking cannot be used in comprehension".text
  | doubleSpreadInFilter => "dict unpacking cannot be used in dict comprehension".text
  | openTarget => "did you forget parentheses around the comprehension target?".text
  | spreadAfterKeys => "iterable argument unpacking follows keyword argument unpacking".text
  | openGenerator => "Generator expression must be parenthesized".text
  | positionalAfterKey => "positional argument follows keyword argument".text
  | positionalAfterSpread => "positional argument follows keyword argument unpacking".text
  | missingColon => "':' expected after dictionary key".text
  | spreadAsValue => "cannot use a starred expression in a dictionary value".text
  | missingValue => "expression expected after dictionary key and ':'".text
  | mixedBytes => "cannot mix bytes and nonbytes literals".text
  | wideBytes => "bytes can only contain ASCII literal characters".text
  | plainAfterDefault => "non-default argument follows default argument".text
  | parameterBrackets => "Lambda expression parameters cannot be parenthesized".text
  | slashFirst => "at least one argument must precede /".text
  | slashTwice => "/ may appear only once".text
  | slashAfterStar => "/ must be ahead of *".text
  | missingSlashComma => "expected comma between / and *".text
  | bareStar => "named arguments must follow bare *".text
  | starDefault => "var-positional argument cannot have default value".text
  | starTwice => "* argument may appear only once".text
  | doubleStarDefault => "var-keyword argument cannot have default value".text
  | afterDoubleStar => "arguments cannot follow var-keyword argument".text
  | missingDefault => "expected default value expression".text
  | badEscape first last reason =>
    "(unicode error) 'unicodeescape' codec can't decode bytes in position ".text ++ Text.ofNat first
      ++ "-".text ++ Text.ofNat last ++ ": ".text ++ reason
  | badByteEscape position => "(value error) invalid \\x escape at position ".text ++ Text.ofNat position
  | tooManyDigits count =>
    readLimitMessage count
      ++ " - Consider hexadecimal for huge integer literals to avoid decimal conversion limits.".text

/-! ## Tests of what is wrong -/

/-- Two expressions in a row within brackets, the first of which is no statement. -/
def missingComma? (ts : List Tree) (last : Token) : Option Misuse :=
  if ts.head?.any Tree.isStatement || last.depth = 0 then none else some .missingComma

/-- A statement before an expression. -/
def missingCall? (ts : List Tree) (_ : Token) : Option Misuse :=
  match ts with
  | .token t :: _ => if (Tree.token t).isStatement then some (.missingCall t.text) else none
  | _ => none

/-- The name of the first tree. -/
def named (make : Text → Misuse) (ts : List Tree) (_ : Token) : Option Misuse := ts.head?.map fun t => make t.name

/-- Targets that nothing can be assigned to. -/
def badTargets? (ts : List Tree) (_ : Token) : Option Misuse := (ts.getLast?.bind Tree.unassignable?).map .assigned

/-- The trees of arguments, without commas. -/
def argumentsOf : Tree → List Tree
  | .node .positional ts => ts.filter fun t => !t.isSign ","
  | t => [t]

/-- A spread of a dictionary. -/
def isDoubleSpread : Tree → Bool
  | .node .keyOrDoubleSpread (t :: _) => t.isSign "**"
  | _ => false

/-- Arguments by name. -/
def isKeyed (t : Tree) : Bool :=
  match t with
  | .node .keyOrSpread _ => true
  | .node .keyOrDoubleSpread _ => true
  | .node .keyed _ => true
  | _ => false

/-- A generator after other arguments. -/
def openGenerator? (ts : List Tree) (_ : Token) : Option Misuse :=
  match ts with
  | args :: _ => if ((argumentsOf args).filter (!isKeyed ·)).length ≤ 1 then none else some .openGenerator
  | [] => none

/-- Arguments after arguments by name. -/
def misplaced? (ts : List Tree) (_ : Token) : Option Misuse :=
  match ts with
  | args :: _ =>
    let spreads := (argumentsOf args).any fun t => isDoubleSpread t || t.children.any isDoubleSpread
    some (if spreads then .positionalAfterSpread else .positionalAfterKey)
  | [] => none

end Stencil.Action
