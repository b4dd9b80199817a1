import Stencil.Text.Basic

/-!
# Decimal digits

* **Digits of every script** (`digitValue?`): ten consecutive characters per script, in the order of their values.
* **Numbers of a text** (`decimalValue?`): a nonempty run of digits, the most significant first.
* **Limit** (`digitLimit`): integers with more decimal digits are neither written nor read. The wordings say which
  (`writeLimitMessage`, `readLimitMessage`).
-/

namespace Stencil

namespace Text

/-! ## Digits -/

/-- The digit zero of each script (Unicode 14.0). Its nine successors are the digits one to nine. -/
def zeroDigits : List Nat :=
  [48, 1632, 1776, 1984, 2406, 2534, 2662, 2790, 2918, 3046, 3174, 3302, 3430, 3558, 3664, 3792, 3872, 4160,
   4240, 6112, 6160, 6470, 6608, 6784, 6800, 6992, 7088, 7232, 7248, 42528, 43216, 43264, 43472, 43504, 43600,
   44016, 65296, 66720, 68912, 69734, 69872, 69942, 70096, 70384, 70736, 70864, 71248, 71360, 71472, 71904,
   72016, 72784, 73040, 73120, 92768, 92864, 93008, 120782, 120792, 120802, 120812, 120822, 123200, 123632,
   125264, 130032]

/-- The value of a decimal digit of any script. -/
def digitValue? (c : Point) : Option Nat :=
  (zeroDigits.find? fun first => first ≤ c.toNat && c.toNat < first + 10).map (c.toNat - ·)

/-- Decimal digits of any script. -/
def isDigit (c : Point) : Bool := (digitValue? c).isSome

/-- The number that a run of digits writes after the number `acc`. -/
def decimalFrom (acc : Nat) : Text → Option Nat
  | [] => some acc
  | c :: cs => (digitValue? c).bind fun d => decimalFrom (10 * acc + d) cs

/-- The number that a nonempty text of digits writes. -/
def decimalValue? : Text → Option Nat
  | [] => none
  | c :: cs => decimalFrom 0 (c :: cs)

end Text

/-! ## The limit on digits -/

/-- The most decimal digits that an integer is written or read with. -/
def digitLimit : Nat := 4300

/-- The wording for an integer that is too long to write. -/
def writeLimitMessage : Text :=
  "Exceeds the limit (4300 digits) for integer string conversion; ".text
    ++ "use sys.set_int_max_str_digits() to increase the limit".text

/-- The wording for an integer of so many digits that is too long to read. -/
def readLimitMessage (count : Nat) : Text :=
  "Exceeds the limit (4300 digits) for integer string conversion: value has ".text ++ Text.ofNat count
    ++ " digits; use sys.set_int_max_str_digits() to increase the limit".text

end Stencil
