import Stencil.Text.Basic

/-!
# Paths

* **Paths** (`Path`): names with slashes between them, possibly from the root. Empty names and single points mean
  nothing and are dropped; two points are kept.
* **Suffixes** (`Path.suffix`, `Path.stem`): the last name from its last point on, unless that is its first or last
  character.
-/

namespace Stencil

/-- A path. -/
structure Path where
  /-- The slashes of a path from the root: two when exactly two were written, and one otherwise. -/
  root : Text
  parts : List Text
  deriving DecidableEq, Repr

namespace Path

/-- The slashes that a text starts with, as a root. -/
def rootOf (t : Text) : Text :=
  match (t.takeWhile (· = Point.char '/')).length with
  | 0 => []
  | 2 => ['/', '/']
  | _ => ['/']

/-- The path that a text writes. -/
def ofText (t : Text) : Path where
  root := rootOf t
  parts := (Text.splitAt '/' t).filter fun part => !part.isEmpty && part ≠ [Point.char '.']

/-- The text of a path. -/
def text (p : Path) : Text :=
  if p.root.isEmpty && p.parts.isEmpty then ['.'] else p.root ++ Text.join ['/'] p.parts

/-- Whether a name of the path holds the null character. -/
def hasNull (p : Path) : Bool := p.parts.any (·.contains '\x00')

/-- Whether the path starts at the root. -/
def isAbsolute (p : Path) : Bool := !p.root.isEmpty

/-- A path from the end of another. -/
def join (p q : Path) : Path := if q.isAbsolute then q else { p with parts := p.parts ++ q.parts }

/-- The last name. -/
def name (p : Path) : Text := p.parts.getLast?.getD []

/-- The point that starts the suffix of a name, counted from the start. -/
def suffixStart? (name : Text) : Option Nat :=
  let tail := (name.reverse.takeWhile (· ≠ Point.char '.')).length
  let start := name.length - (tail + 1)
  if name.contains '.' ∧ 0 < start ∧ 0 < tail then some start else none

/-- The last name from its last point on. -/
def suffix (p : Path) : Text :=
  match suffixStart? p.name with
  | some start => p.name.drop start
  | none => []

/-- The last name without its suffix. -/
def stem (p : Path) : Text :=
  match suffixStart? p.name with
  | some start => p.name.take start
  | none => p.name

end Path

end Stencil
