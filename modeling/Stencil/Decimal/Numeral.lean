import Stencil.Decimal.Binary64
import Stencil.Text.Basic
import Stencil.Text.Digit
import Stencil.Text.Quoted

/-!
# Numerals

* **Integers** (`Numeral.integer`) in base ten or a power of two, and **decimals** (`Numeral.decimal`), in the digits of
  any script, with blanks around them and a sign before them.
* Below U+0080 the spaces that end lines or columns are blanks, and the characters that separate records are not.
-/

namespace Stencil

/-- Why a text is no numeral. -/
inductive NumeralFault where
  | notInteger (base : Nat) (source : Text)
  /-- An integer has more digits than the limit. -/
  | tooManyDigits (count : Nat)
  | notDecimal (source : Text)
  deriving DecidableEq, Repr

/-- The most characters of a text that is quoted as no integer. -/
def quotationLimit : Nat := 200

/-- The wording of a fault. -/
def NumeralFault.message : NumeralFault → Text
  | notInteger base source =>
    "invalid literal for int() with base ".text ++ Text.ofNat base ++ ": ".text
      ++ (Text.quoted source).take quotationLimit
  | tooManyDigits count => readLimitMessage count
  | notDecimal source => "could not convert string to float: ".text ++ Text.quoted source

namespace Numeral

/-- The characters that stand for themselves in numerals: a digit of another script is the digit of its value, and a
blank from U+0080 up is a space. -/
def plain (c : Point) : Point :=
  if c.toNat < 128 then c
  else match Text.digitValue? c with
    | some d => Char.ofNat (48 + d)
    | none => if Text.isBlank c then ' ' else c

/-- The blanks around a numeral. -/
def isBlank (c : Point) : Bool := c = ' ' || (9 ≤ c.toNat && c.toNat ≤ 13)

/-- Whether a numeral is negative, and the numeral without its sign. -/
def splitSign : Text → Bool × Text
  | '-' :: cs => (true, cs)
  | '+' :: cs => (false, cs)
  | cs => (false, cs)

/-- The digits of a numeral of a base, without the mark of the base. -/
def withoutBaseMark (base : Nat) : Text → Text
  | '0' :: c :: rest =>
    if (base = 16 ∧ (c = 'x' ∨ c = 'X')) ∨ (base = 8 ∧ (c = 'o' ∨ c = 'O')) ∨ (base = 2 ∧ (c = 'b' ∨ c = 'B')) then rest
    else '0' :: c :: rest
  | t => t

/-- Whether a character is a digit of a base. -/
def isDigitOf (base : Nat) (c : Point) : Bool := ((Text.hexValue? c).map fun d => decide (d < base)).getD false

/-- The integer that a text writes in a base. The limit holds for base ten, whatever follows the digits. -/
def integer (base : Nat) (source : Text) : Except NumeralFault Int :=
  let (negative, unsigned) := splitSign ((source.map plain).dropWhile isBlank)
  let t := withoutBaseMark base unsigned
  let digits := t.takeWhile (isDigitOf base)
  if base = 10 ∧ digits.length > digitLimit then .error (.tooManyDigits digits.length)
  else match Text.inBase? base digits, (t.drop digits.length).all isBlank with
    | some n, true => .ok (if negative then -(n : Int) else n)
    | _, _ => .error (.notInteger base source)

/-- The floating point number that a text writes. -/
def decimal (source : Text) : Except NumeralFault Binary64 :=
  match Binary64.read? (Text.trim isBlank (source.map plain)) with
  | some x => .ok x
  | none => .error (.notDecimal source)

end Numeral

end Stencil
