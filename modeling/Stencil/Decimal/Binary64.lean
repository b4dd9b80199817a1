import Stencil.Text.Basic

/-!
# Binary floating point numbers

* **Numbers** (`Binary64`): the values of the 64 bit binary format, each finite one as `mantissa * 2 ^ exponent`.
* **Rounding** (`ofRatio`): the nearest number to a ratio, the even mantissa on a tie, infinity past the largest.
* **Decimals** (`ofDecimal`): the nearest number to `digits * 10 ^ power`.
* **Arithmetic** (`add`, `mul`): the exact result, rounded.
* **Reading** (`Binary64.read?`): an optional sign, digits with at most one point, and an optional exponent; or a word
  for infinity or for what is not a number. Capitals count as small letters.
-/

namespace Stencil

/-- A number of the 64 bit binary format. A finite one has a mantissa below `2 ^ 53` and an exponent from `-1074` to
`971`, and the mantissa is at least `2 ^ 52` unless the exponent is the least. -/
inductive Binary64 where
  /-- Not a number. -/
  | nan
  /-- An infinity. -/
  | infinite (negative : Bool)
  /-- A finite number; zero has a sign too. -/
  | finite (negative : Bool) (mantissa : Nat) (exponent : Int)
  deriving DecidableEq, Repr

namespace Binary64

/-- The zero of a sign. -/
def zero (negative : Bool) : Binary64 := finite negative 0 (-1074)

/-- The same number with the other sign. -/
def negate : Binary64 → Binary64
  | nan => nan
  | infinite s => infinite !s
  | finite s m e => finite (!s) m e

/-- Whether the number is a zero. -/
def isZero : Binary64 → Bool
  | finite _ 0 _ => true
  | _ => false

/-! ## Rounding -/

/-- The quotient rounded to the nearest integer, the even one on a tie. -/
def roundDiv (num den : Nat) : Nat :=
  let floor := num / den
  let rest := 2 * (num % den)
  if rest < den ∨ (rest = den ∧ floor % 2 = 0) then floor else floor + 1

/-- The factors that a power of two puts on a numerator and a denominator. -/
def powerOfTwo (e : Int) : Nat × Nat :=
  if 0 ≤ e then (Nat.pow 2 e.toNat, 1) else (1, Nat.pow 2 (-e).toNat)

/-- The exponent of the nearest number to a positive ratio, before a carry of the mantissa. -/
def exponentOf (num den : Nat) : Int :=
  let estimate : Int := (Nat.log2 num : Int) - Nat.log2 den
  let (up, down) := powerOfTwo estimate
  let log := if num * down < den * up then estimate - 1 else estimate
  max (log - 52) (-1074)

/-- The nearest number to a ratio; its denominator is positive. -/
def ofRatio (negative : Bool) (num den : Nat) : Binary64 :=
  if num = 0 then zero negative
  else
    let e := exponentOf num den
    let (up, down) := powerOfTwo e
    let m := roundDiv (num * down) (den * up)
    let (m, e) := if m = Nat.pow 2 53 then (Nat.pow 2 52, e + 1) else (m, e)
    if e > 971 then infinite negative else finite negative m e

/-- The nearest number to `digits * 10 ^ power`. Powers far outside the range of the format need no computation. -/
def ofDecimal (negative : Bool) (digits : Nat) (power : Int) : Binary64 :=
  let magnitude : Int := (Nat.toDigits 10 digits).length + power
  if digits = 0 ∨ magnitude < -330 then zero negative
  else if magnitude > 320 then infinite negative
  else if 0 ≤ power then ofRatio negative (digits * Nat.pow 10 power.toNat) 1
  else ofRatio negative digits (Nat.pow 10 (-power).toNat)

/-! ## Exact values -/

/-- The numerator and denominator of the absolute value of a finite number. -/
def ratio (mantissa : Nat) (exponent : Int) : Nat × Nat :=
  let (up, down) := powerOfTwo exponent
  (mantissa * up, down)

/-- Whether two numbers are equal: the two zeros are, and what is not a number equals nothing. -/
def equal : Binary64 → Binary64 → Bool
  | infinite s, infinite s' => s == s'
  | finite s m e, finite s' m' e' => (m = 0 ∧ m' = 0) ∨ (s = s' ∧ m = m' ∧ e = e')
  | _, _ => false

/-- Whether the number is a given integer. -/
def equalInt (x : Binary64) (n : Int) : Bool :=
  match x with
  | finite s m e =>
    let (num, den) := ratio m e
    num = n.natAbs * den ∧ (m = 0 ∨ s = decide (n < 0))
  | _ => false

/-! ## Arithmetic -/

/-- The nearest number to a natural number, unless it is past the largest. -/
def ofNat? (n : Nat) : Option Binary64 :=
  match ofRatio false n 1 with
  | infinite _ => none
  | x => some x

/-- Whether the number has the negative sign. -/
def isNegative : Binary64 → Bool
  | nan => false
  | infinite s => s
  | finite s _ _ => s

/-- The product, rounded. -/
def mul (x y : Binary64) : Binary64 :=
  let negative := x.isNegative != y.isNegative
  match x, y with
  | nan, _ | _, nan => nan
  | infinite _, y => if y.isZero then nan else infinite negative
  | x, infinite _ => if x.isZero then nan else infinite negative
  | finite _ m e, finite _ m' e' =>
    let (num, den) := ratio m e
    let (num', den') := ratio m' e'
    ofRatio negative (num * num') (den * den')

/-- The sum, rounded. Two numbers that cancel give the positive zero. -/
def add (x y : Binary64) : Binary64 :=
  match x, y with
  | nan, _ | _, nan => nan
  | infinite s, infinite s' => if s = s' then infinite s else nan
  | infinite s, _ => infinite s
  | _, infinite s' => infinite s'
  | finite s m e, finite s' m' e' =>
    let (num, den) := ratio m e
    let (num', den') := ratio m' e'
    let signed (negative : Bool) (n : Nat) : Int := if negative then -(n : Int) else n
    let sum := signed s (num * den') + signed s' (num' * den)
    if sum = 0 then zero (s && s') else ofRatio (decide (sum < 0)) sum.natAbs (den * den')

/-! ## Reading -/

/-- The number that a text of plain digits writes. -/
def plainDigits (t : Text) : Nat := (Text.inBase? 10 t).getD 0

/-- The value of an exponent: an optional sign and at least one digit. -/
def exponent? (t : Text) : Option Int :=
  match t with
  | '-' :: ds => (Text.inBase? 10 ds).map fun n => -(n : Int)
  | '+' :: ds => (Text.inBase? 10 ds).map fun n => (n : Int)
  | ds => (Text.inBase? 10 ds).map fun n => (n : Int)

/-- A decimal without a sign. -/
def readUnsigned? (negative : Bool) (t : Text) : Option Binary64 :=
  let whole := t.takeWhile Point.isDigit
  let afterWhole := t.dropWhile Point.isDigit
  let (fraction, tail) := match afterWhole with
    | '.' :: cs => (cs.takeWhile Point.isDigit, cs.dropWhile Point.isDigit)
    | cs => ([], cs)
  if whole.isEmpty && fraction.isEmpty then none
  else
    let digits := plainDigits (whole ++ fraction)
    match tail with
    | [] => some (ofDecimal negative digits (-(fraction.length : Int)))
    | 'e' :: cs => (exponent? cs).map fun e => ofDecimal negative digits (e - fraction.length)
    | _ => none

/-- The number that a text writes. -/
def read? (t : Text) : Option Binary64 :=
  let (negative, t) := match Text.lowerLatin t with
    | '-' :: cs => (true, cs)
    | '+' :: cs => (false, cs)
    | cs => (false, cs)
  if t = "inf".text ∨ t = "infinity".text then some (infinite negative)
  else if t = "nan".text then some nan
  else readUnsigned? negative t

end Binary64

end Stencil
