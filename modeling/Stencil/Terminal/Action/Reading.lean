import Std.Data.HashMap
import Stencil.Terminal.Action.Grammar

/-!
# Reading actions

* **Matching** (`match?`): a pattern at a position of the tokens. Matches of some rules are remembered.
* **Reading** (`read`): the tree of a text. Tokens that are no expression are matched again to find what is wrong with
  them. A fault of the characters goes before one of the tokens.
-/

namespace Stencil.Action

/-- Why a text is no expression. -/
inductive ReadingFault where
  | token (fault : TokenFault)
  | misuse (m : Misuse)
  deriving DecidableEq, Repr

/-- The wording of a fault. -/
def ReadingFault.message : ReadingFault → Text
  | token fault => fault.message
  | misuse m => m.message

/-! ## Matching -/

/-- The trees of a match, and the position after it. -/
abbrev Match := List Tree × Nat

/-- What is known of tokens while they are matched. -/
structure Progress where
  /-- The number of tokens that have been looked at. -/
  seen : Nat := 0
  remembered : Std.HashMap (Rule × Nat) (Option Match) := {}

/-- What looks at tokens and may find a fault. -/
abbrev Reader := ExceptT ReadingFault (StateM Progress)

/-- The token at a position. To look behind the last one is a fault if something is wrong there. -/
def Tokens.look? (s : Tokens) (position : Nat) : Reader (Option Token) := do
  match s.tokens[position]? with
  | some t =>
    modify fun p => { p with seen := max p.seen (position + 1) }
    return some t
  | none =>
    match s.fault with
    | some fault => throw (.token fault)
    | none => return none

/-- The token at a position, if it passes a test. -/
def Tokens.take? (s : Tokens) (position : Nat) (test : Token → Bool) : Reader (Option Match) := do
  return ((← s.look? position).filter test).map fun t => ([.token t], position + 1)

/-- The trees of a rule, given those of its pattern. -/
def Rule.wrap (r : Rule) : List Tree → List Tree
  | [t] => [t]
  | ts => [.node r ts]

/-- The match of a pattern at a position, with so many patterns within each other at the most. -/
def match? (s : Tokens) : Nat → Bool → Pattern → Nat → Reader (Option Match)
  | 0, _, _, _ => return none
  | depth + 1, diagnosing, pattern, i => do
    let inner := match? s depth diagnosing
    match pattern with
    | .sign text => s.take? i fun t => (t.kind = .word || t.kind = .sign) && t.text = text.text
    | .name => s.take? i fun t => t.kind = .word && !keywords.contains t.text
    | .softKeyword => s.take? i fun t => t.kind = .word && softKeywords.any t.text.isPrefixOf
    | .kind k => s.take? i fun t => t.kind = k
    | .rule r =>
      let remembered := (← get).remembered
      match remembered[(r, i)]? with
      | some found => return found
      | none =>
        let found := (← inner r.pattern i).map fun (ts, j) => (r.wrap ts, j)
        if r.isRemembered then modify fun p => { p with remembered := p.remembered.insert (r, i) found }
        return found
    | .all [] => return some ([], i)
    | .all (p :: ps) =>
      let some (ts, j) ← inner p i | return none
      let some (us, k) ← inner (.all ps) j | return none
      return some (ts ++ us, k)
    | .first [] => return none
    | .first (p :: ps) =>
      match ← inner p i with
      | some found => return some found
      | none => inner (.first ps) i
    | .optional p => return some ((← inner p i).getD ([], i))
    | .many p =>
      match ← inner p i with
      | some (ts, j) =>
        if j ≤ i then return some ([], i)
        let (us, k) := (← inner (.many p) j).getD ([], j)
        return some (ts ++ us, k)
      | none => return some ([], i)
    | .ahead p => return (← inner p i).map fun _ => ([], i)
    | .notAhead p => return if (← inner p i).isSome then none else some ([], i)
    | .decided head rest other =>
      match ← inner head i with
      | some (ts, j) => return (← inner rest j).map fun (us, k) => (ts ++ us, k)
      | none => inner other i
    | .checked test p =>
      let found ← inner p i
      match found.bind fun (ts, _) => test ts with
      | some m => throw (.misuse m)
      | none => return found
    | .rejected test p =>
      let some (ts, j) ← inner p i | return none
      match s.tokens[j - 1]?.bind (test ts) with
      | some m => throw (.misuse m)
      | none => return none
    | .diagnosis p => if diagnosing then inner p i else return none
    | .quietly p => match? s depth false p i

/-! ## Reading -/

/-- The match of a whole text, and what is known after it. -/
def Tokens.attempt (s : Tokens) (diagnosing : Bool) (seen : Nat) : Except ReadingFault (Option Match) × Progress :=
  (match? s (300 * (s.tokens.length + 2)) diagnosing Rule.whole 0).run.run { seen }

/-- The fault of tokens, of which some have been looked at. A fault of the characters that follow goes before it, or a
bracket in an earlier line that is not closed. -/
def Tokens.faultAfter (s : Tokens) (seen : Nat) (m : Misuse) : ReadingFault :=
  let earlier (bracket : Point) (line : Nat) : ReadingFault :=
    if (s.tokens[seen - 1]?).any fun t => line < t.line then .token (.unclosed bracket line) else .misuse m
  match s.fault with
  | some (.unclosed bracket line) => earlier bracket line
  | some (.continued (some (bracket, line))) => earlier bracket line
  | some fault => if fault.isImmediate then .token fault else .misuse m
  | none => .misuse m

/-- Whether the end of the text has been met, when some tokens have been looked at. -/
def Tokens.isAtEnd (s : Tokens) (seen : Nat) : Bool :=
  s.atEnd && seen = s.tokens.length && s.tokens.getLast?.any Token.isOpenEnded

/-- The fault that a match ended with. After the end of the text no other one is looked for. -/
def Tokens.faultOf (s : Tokens) (seen : Nat) : ReadingFault → ReadingFault
  | .token fault => .token fault
  | .misuse m => if s.isAtEnd seen then .misuse m else s.faultAfter seen m

/-- What is wrong with tokens that are no expression, of which some have been looked at. -/
def Tokens.diagnose (s : Tokens) (seen : Nat) : ReadingFault :=
  match s.attempt true seen with
  | (.error fault, p) => s.faultOf p.seen fault
  | (.ok _, p) =>
    if (s.tokens[seen - 1]?).any (·.kind = .indent) then .misuse .unexpectedIndent else s.faultAfter p.seen .invalid

/-- The tree of a text. -/
def read (t : Text) : Except ReadingFault Tree :=
  let s := Tokens.ofText t
  match s.attempt false 0 with
  | (.error fault, p) => .error (s.faultOf p.seen fault)
  | (.ok (some (.node .whole (t :: _) :: _, _)), _) => .ok t
  | (.ok _, p) => .error (s.diagnose p.seen)

end Stencil.Action
