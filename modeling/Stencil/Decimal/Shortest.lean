import Stencil.Decimal.Binary64
import Stencil.Text.Basic

/-!
# The shortest decimal of a number

* **Shortest decimal** (`shortest`): the fewest digits that read back as the number, and of those the nearest to it.
* **Number text** (`Binary64.text`): positional from `10 ^ -4` up to `10 ^ 16`, and with an exponent of at least two
  digits outside. The spelling of infinity and of what is not a number is a parameter (`Spelling`).
-/

namespace Stencil

/-- The words for the numbers that have no digits. -/
structure Spelling where
  nan : Text
  infinity : Text

namespace Binary64

/-! ## Digits -/

/-- The number of decimal places to the left of the point that a ratio needs, counted down from `-tries` when it
is below one. -/
def leadingPlace (num den : Nat) : Nat → Int
  | 0 => 0
  | tries + 1 =>
    if den ≤ num then (Nat.toDigits 10 (num / den)).length
    else leadingPlace (10 * num) den tries - 1

/-- The decimals that read back as one number: all between two bounds over a common denominator. -/
structure Interval where
  lower : Nat
  value : Nat
  upper : Nat
  den : Nat
  /-- Whether the bounds read back too. -/
  closed : Bool

/-- The interval of the finite number `mantissa * 2 ^ exponent`. The gap below a power of two is half as wide. -/
def interval (mantissa : Nat) (exponent : Int) : Interval :=
  let (up, down) := powerOfTwo (exponent - 2)
  let below := if mantissa = Nat.pow 2 52 ∧ exponent > -1074 then 1 else 2
  { lower := (4 * mantissa - below) * up
    value := 4 * mantissa * up
    upper := (4 * mantissa + 2) * up
    den := down
    closed := mantissa % 2 = 0 }

/-- Whether `digits * 10 ^ power` lies in the interval. -/
def Interval.contains (i : Interval) (digits : Nat) (power : Int) : Bool :=
  let scale := Nat.pow 10 (-power).toNat
  let point := digits * i.den * Nat.pow 10 power.toNat
  if i.closed then i.lower * scale ≤ point ∧ point ≤ i.upper * scale
  else i.lower * scale < point ∧ point < i.upper * scale

/-- The nearest multiple of `10 ^ power` in the interval, among the two neighbours of its value. -/
def Interval.neighbour? (i : Interval) (power : Int) : Option Nat :=
  let num := i.value * Nat.pow 10 (-power).toNat
  let den := i.den * Nat.pow 10 power.toNat
  let digits := num / den
  match i.contains digits power, i.contains (digits + 1) power with
  | true, true => some (roundDiv num den)
  | true, false => some digits
  | false, true => some (digits + 1)
  | false, false => none

/-- The first of `tries` grids, each ten times finer than the one before, that has a point in the interval. -/
def Interval.search (i : Interval) (power : Int) : Nat → Nat × Int
  | 0 => (i.value / i.den, 0)
  | tries + 1 =>
    match i.neighbour? power with
    | some digits => (digits, power)
    | none => i.search (power - 1) tries

/-- Moves the zeros at the end of a number into the power of ten. -/
def dropZeros (digits : Nat) (power : Int) : Nat → Nat × Int
  | 0 => (digits, power)
  | tries + 1 => if digits % 10 = 0 then dropZeros (digits / 10) (power + 1) tries else (digits, power)

/-- The digits and the power of ten of the shortest decimal that reads back as `mantissa * 2 ^ exponent`. -/
def shortest (mantissa : Nat) (exponent : Int) : Nat × Int :=
  let i := interval mantissa exponent
  let (digits, power) := i.search (leadingPlace i.value i.den 400 - 1) 18
  dropZeros digits power 20

/-! ## Layout -/

/-- The text of `digits * 10 ^ power`. -/
def layout (digits : Nat) (power : Int) : Text :=
  let ds := Text.ofNat digits
  let point := ds.length + power
  if -4 < point ∧ point ≤ 0 then "0.".text ++ List.replicate (-point).toNat (Point.char '0') ++ ds
  else if 0 < point ∧ point ≤ 16 then
    if ds.length ≤ point then ds ++ List.replicate power.toNat (Point.char '0') ++ ".0".text
    else ds.take point.toNat ++ Point.char '.' :: ds.drop point.toNat
  else
    let exponent := point - 1
    let size := Text.ofNat exponent.natAbs
    let fraction := if ds.length = 1 then [] else Point.char '.' :: ds.drop 1
    ds.take 1 ++ fraction ++ Point.char 'e' :: (if exponent < 0 then '-' else '+')
      :: (List.replicate (2 - size.length) (Point.char '0') ++ size)

/-- The text of a number. -/
def text (spelling : Spelling) : Binary64 → Text
  | nan => spelling.nan
  | infinite s => if s then '-' :: spelling.infinity else spelling.infinity
  | finite s m e =>
    let digits := if m = 0 then "0.0".text else
      let (d, p) := shortest m e
      layout d p
    if s then '-' :: digits else digits

end Binary64

end Stencil
