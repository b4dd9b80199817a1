import Stencil.Terminal.Action.Misuse

/-!
# Patterns of tokens

* **Patterns** (`Pattern`): what matches tokens. The first choice that matches is taken.
* **Faults**: some patterns only say what is wrong with what they match (`Pattern.rejected`), and most of these are
  tried only when no expression matches (`Pattern.diagnosis`).
-/

namespace Stencil.Action

/-- What matches tokens. -/
inductive Pattern where
  /-- A keyword or a sign. -/
  | sign (text : String)
  /-- A word that is no keyword. -/
  | name
  /-- A word that has a meaning in some places. -/
  | softKeyword
  | kind (k : TokenKind)
  | rule (r : Rule)
  | all (ps : List Pattern)
  | first (ps : List Pattern)
  | optional (p : Pattern)
  | many (p : Pattern)
  /-- Tokens are not taken, but have to match. -/
  | ahead (p : Pattern)
  | notAhead (p : Pattern)
  /-- Once the first pattern matches, the last one is not tried. -/
  | decided (head rest other : Pattern)
  /-- What matches has to pass a test. -/
  | checked (test : List Tree → Option Misuse) (p : Pattern)
  /-- What matches is wrong, if a test of the trees and of the last token finds something, and else does not match. -/
  | rejected (test : List Tree → Token → Option Misuse) (p : Pattern)
  /-- A pattern that is tried only where other patterns have failed to match all tokens. -/
  | diagnosis (p : Pattern)
  /-- A pattern without those that say what is wrong. -/
  | quietly (p : Pattern)

namespace Pattern

instance : Coe String Pattern := ⟨.sign⟩

instance : Coe Rule Pattern := ⟨.rule⟩

/-- A pattern once or more. -/
def some (p : Pattern) : Pattern := .all [p, .many p]

/-- A pattern once or more, with commas between. -/
def listed (p : Pattern) : Pattern := .all [p, .many (.all [",", p])]

/-- A pattern once or more, with commas between and perhaps one at the end. -/
def enclosed (p : Pattern) : Pattern := .all [listed p, .optional ","]

/-- One of some signs between operands. -/
def operated (p : Pattern) (signs : List Pattern) : Pattern := .all [p, .many (.all [.first signs, p])]

/-- What is wrong by a test, among tokens that no other pattern matches. -/
def wrong (test : List Tree → Token → Option Misuse) (p : Pattern) : Pattern := .diagnosis (.rejected test p)

/-- What is wrong wherever it is met. -/
def rejectedAs (m : Misuse) (p : Pattern) : Pattern := .rejected (fun _ _ => Option.some m) p

/-- What is always wrong, among tokens that no other pattern matches. -/
def wrongAs (m : Misuse) (p : Pattern) : Pattern := .diagnosis (rejectedAs m p)

end Pattern

end Stencil.Action
