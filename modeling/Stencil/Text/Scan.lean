import Stencil.Text.Basic

/-!
# Scanning a text for items

* **Recognisers** (`Recogniser`) read an item at the head of a text and tell how many characters it takes.
* **Pieces** (`pieces`): a text cut from left to right into items, each taken at the first place that the one before
  leaves free, and the characters between them.
* **Replacing** (`replace`, `replaceM`): the items of a text are replaced, the characters between them stay. What is
  written for an item is not read again.
-/

namespace Stencil

/-- A piece of a scanned text. -/
inductive Piece (α : Type) where
  /-- A character outside all items. -/
  | char (c : Point)
  /-- An item. -/
  | item (a : α)
  deriving DecidableEq, Repr

namespace Text

/-- Reads an item at the head of a text; the number is the count of its characters. -/
abbrev Recogniser (α : Type) := Text → Option (α × Nat)

variable {α : Type}

/-- The pieces of the text after its first `skip` characters. -/
def piecesFrom (read : Recogniser α) : Nat → Text → List (Piece α)
  | _, [] => []
  | skip + 1, _ :: cs => piecesFrom read skip cs
  | 0, c :: cs =>
    match read (c :: cs) with
    | some (a, width) => .item a :: piecesFrom read (width - 1) cs
    | none => .char c :: piecesFrom read 0 cs

/-- The pieces of a text. -/
def pieces (read : Recogniser α) (t : Text) : List (Piece α) := piecesFrom read 0 t

/-- The text with its items replaced. -/
def replace (read : Recogniser α) (write : α → Text) (t : Text) : Text :=
  (pieces read t).flatMap fun
    | .char c => [c]
    | .item a => write a

/-- Writes pieces from left to right, with an effect for each item. -/
def writeM {m : Type → Type} [Monad m] (write : α → m Text) : List (Piece α) → m Text
  | [] => pure []
  | .char c :: ps => do return c :: (← writeM write ps)
  | .item a :: ps => do
    let here ← write a
    return here ++ (← writeM write ps)

/-- The text with its items replaced from left to right, with an effect for each. -/
def replaceM {m : Type → Type} [Monad m] (read : Recogniser α) (write : α → m Text) (t : Text) : m Text :=
  writeM write (pieces read t)

/-! ## Skipping -/

/-- Skipped characters leave no trace. -/
theorem piecesFrom_eq_drop (read : Recogniser α) : ∀ (skip : Nat) (t : Text),
    piecesFrom read skip t = pieces read (t.drop skip)
  | 0, _ => rfl
  | skip + 1, [] => by simp [pieces, piecesFrom]
  | skip + 1, _ :: cs => by simpa [piecesFrom] using piecesFrom_eq_drop read skip cs

@[simp] theorem pieces_nil (read : Recogniser α) : pieces read [] = [] := rfl

/-- An item at the head is the first piece. -/
theorem pieces_of_some {read : Recogniser α} {c : Point} {cs : Text} {a : α} {width : Nat}
    (h : read (c :: cs) = some (a, width)) :
    pieces read (c :: cs) = .item a :: pieces read (cs.drop (width - 1)) := by
  rw [pieces, piecesFrom, h]
  simp [piecesFrom_eq_drop]

/-- A head that starts no item is a character of its own. -/
theorem pieces_of_none {read : Recogniser α} {c : Point} {cs : Text} (h : read (c :: cs) = none) :
    pieces read (c :: cs) = .char c :: pieces read cs := by
  rw [pieces, piecesFrom, h]
  rfl

end Text

end Stencil
