import Stencil.Text.Point

/-!
# Text

* **Texts** (`Text`): lists of code points, with positions that count them. A string is the text of its characters
  (`String.text`).
* **Markers**: the rest of a text after a marker at its head (`after?`), and the two sides of the first occurrence of
  a marker (`cutAt?`).
* **Blanks** (`isBlank`): spaces, line and paragraph separators, and the control characters that separate. `strip` drops
  those at both ends of a text, and `nonblankRuns` is what stands between them.
* **Lines** (`lines`, `unlines`, `normaliseNewlines`), cut so that nothing is lost (`join_splitAt`).
* **Numbers** in decimal (`ofNat`, `ofInt`), and padding.
-/

namespace Stencil

/-- A text is the list of its code points. -/
abbrev Text := List Point

end Stencil

/-- The text of the characters of a string. -/
def String.text (s : String) : Stencil.Text := s.toList.map Stencil.Point.char

namespace Stencil

namespace Text

/-- A text of characters alone, without halves. A file holds only such a text. -/
def Scalar (t : Text) : Prop := ∀ p ∈ t, p.isHalf = false

instance (t : Text) : Decidable (Scalar t) := inferInstanceAs (Decidable (∀ p ∈ t, p.isHalf = false))

/-- The string of a text, with a mark in the place of each half. -/
def string (t : Text) : String := String.ofList (t.map fun p => match p with
  | .char c => c
  | .half _ => '\uFFFD')

/-! ## Markers -/

/-- The rest of the text after a marker that stands at its head. -/
def after? (marker t : Text) : Option Text :=
  if marker.isPrefixOf t then some (t.drop marker.length) else none

/-- The text before and the text after the first occurrence of a marker. -/
def cutAt? (marker : Text) : Text → Option (Text × Text)
  | [] => (after? marker []).map ([], ·)
  | c :: cs =>
    match after? marker (c :: cs) with
    | some rest => some ([], rest)
    | none => (cutAt? marker cs).map fun (before, rest) => (c :: before, rest)

/-- Whether the text ends with a marker. -/
def endsWith (marker t : Text) : Bool := marker.isSuffixOf t

/-- The text without the characters at its two ends that belong to a class. -/
def trim (inClass : Point → Bool) (t : Text) : Text :=
  ((t.dropWhile inClass).reverse.dropWhile inClass).reverse

/-- Whether a character lies in one of the closed intervals. -/
def inRanges (ranges : List (Nat × Nat)) (c : Point) : Bool :=
  ranges.any fun (first, last) => first ≤ c.toNat && c.toNat ≤ last

/-! ## Lines -/

/-- The pieces of the text between occurrences of a character. There is one piece more than occurrences. -/
def splitAt (separator : Point) : Text → List Text
  | [] => [[]]
  | c :: cs =>
    if c = separator then [] :: splitAt separator cs
    else match splitAt separator cs with
      | [] => [[c]]
      | piece :: pieces => (c :: piece) :: pieces

/-- The pieces of the text between newlines. -/
def lines (t : Text) : List Text := splitAt '\n' t

/-- The texts of a list with a separator between neighbours. -/
def join (separator : Text) (ts : List Text) : Text := List.intercalate separator ts

theorem splitAt_ne_nil (separator : Point) : ∀ t : Text, splitAt separator t ≠ []
  | [] => by simp [splitAt]
  | c :: cs => by
    rw [splitAt]
    split
    · simp
    · split <;> simp

theorem join_cons_cons (separator t t' : Text) (ts : List Text) :
    join separator (t :: t' :: ts) = t ++ separator ++ join separator (t' :: ts) := by
  simp [join, List.intercalate]

/-- The pieces of a text make up the text, with the separator between them. -/
theorem join_splitAt (separator : Point) : ∀ t : Text, join [separator] (splitAt separator t) = t
  | [] => rfl
  | c :: cs => by
    have ih := join_splitAt separator cs
    obtain ⟨piece, pieces, hs⟩ := List.exists_cons_of_ne_nil (splitAt_ne_nil separator cs)
    rw [hs] at ih
    rw [splitAt, hs]
    split
    · rename_i h
      rw [join_cons_cons, ih, h]
      rfl
    · cases pieces with
      | nil => simpa [join, List.intercalate] using ih
      | cons piece' rest =>
        rw [join_cons_cons] at ih
        simp only [join_cons_cons, List.cons_append, ih]

/-- The lines of a list, each ended by a newline. -/
def unlines (ts : List Text) : Text := ts.flatMap (· ++ [Point.char '\n'])

/-- Carriage returns, alone or before a newline, become newlines. -/
def normaliseNewlines : Text → Text
  | [] => []
  | '\r' :: '\n' :: cs => '\n' :: normaliseNewlines cs
  | c :: cs => (if c = '\r' then '\n' else c) :: normaliseNewlines cs

/-! ## Blanks -/

/-- The white space characters, as closed intervals. -/
def blankRanges : List (Nat × Nat) :=
  [(9, 13), (28, 32), (133, 133), (160, 160), (5760, 5760), (8192, 8202), (8232, 8233), (8239, 8239), (8287, 8287),
   (12288, 12288)]

/-- White space. -/
def isBlank (c : Point) : Bool := inRanges blankRanges c

/-- The text without the blanks at its two ends. -/
def strip (t : Text) : Text := trim isBlank t

/-- The text without the blanks at its end. -/
def stripRight (t : Text) : Text := (t.reverse.dropWhile isBlank).reverse

/-- The runs of other characters between blanks. -/
def nonblankRuns (t : Text) : List Text :=
  (splitAt ' ' (t.map fun c => if isBlank c then ' ' else c)).filter fun run => !run.isEmpty

/-- A text of blanks alone; the empty text is one. -/
def IsBlank (t : Text) : Prop := t.all isBlank = true

instance (t : Text) : Decidable (IsBlank t) := inferInstanceAs (Decidable (_ = true))

/-! ## Numbers -/

/-- The decimal digits of a natural number. -/
def ofNat (n : Nat) : Text := (Nat.toDigits 10 n).map Point.char

/-- The decimal digits of an integer, with a sign when it is negative. -/
def ofInt (n : Int) : Text := if n < 0 then '-' :: ofNat n.natAbs else ofNat n.natAbs

/-- The last `width` hexadecimal digits of a number, in lower case. -/
def hex (width n : Nat) : Text :=
  let digits : Text := (Nat.toDigits 16 n).map Point.char
  List.replicate (width - digits.length) (Point.char '0') ++ digits

/-- The value of a hexadecimal digit. -/
def hexValue? (c : Point) : Option Nat :=
  if '0' ≤ c ∧ c ≤ '9' then some (c.toNat - 48)
  else if 'a' ≤ c ∧ c ≤ 'f' then some (c.toNat - 87)
  else if 'A' ≤ c ∧ c ≤ 'F' then some (c.toNat - 55)
  else none

/-- The number that a text of digits in a base up to sixteen writes. -/
def inBase? (base : Nat) (t : Text) : Option Nat :=
  if t.isEmpty then none
  else t.foldl (fun acc c => acc.bind fun n => (hexValue? c).bind fun d =>
    if d < base then some (base * n + d) else none) (some 0)

/-! ## Layout -/

/-- So many spaces. -/
def spaces (n : Nat) : Text := List.replicate n ' '

/-- The text with spaces after it up to a number of characters. -/
def padRight (width : Nat) (t : Text) : Text := t ++ spaces (width - t.length)

/-- Capital letters of the Latin alphabet become small ones. -/
def lowerLatin (t : Text) : Text := t.map Point.toLower

end Text

end Stencil
