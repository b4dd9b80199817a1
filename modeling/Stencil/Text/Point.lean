/-!
# Code points

* **Points** (`Point`): the characters, and the halves of surrogate pairs. A half is no character: an escape may write
  one without the other, but no encoded file holds it.
* **Numbers** (`Point.toNat`, `Point.ofNat`): points are in the order of their numbers.
* **Latin letters and digits**, which are characters, told by their numbers (`Point.isAlpha_iff`, `Point.isDigit_iff`).
-/

namespace Stencil

/-- A code point. -/
inductive Point where
  | char (c : Char)
  /-- The half with the number `0xD800 + n`. -/
  | half (n : Fin 2048)
  deriving DecidableEq, Repr, Inhabited

attribute [coe] Point.char

instance : Coe Char Point := ⟨.char⟩

namespace Point

/-- A half of a surrogate pair. -/
def isHalf : Point → Bool
  | char _ => false
  | half _ => true

/-! ## Numbers -/

/-- The number of a point. -/
def toNat : Point → Nat
  | char c => c.toNat
  | half n => 0xD800 + n

/-- The point of a number. A number that no point has gives the null character. -/
def ofNat (n : Nat) : Point :=
  if h : 0xD800 ≤ n ∧ n < 0xE000 then half ⟨n - 0xD800, by omega⟩ else char (Char.ofNat n)

@[simp] theorem toNat_char (c : Char) : (char c).toNat = c.toNat := rfl

@[simp] theorem isHalf_char (c : Char) : (char c).isHalf = false := rfl

/-- The number of a character is not that of a half. -/
theorem toNat_char_lt_or (c : Char) : c.toNat < 0xD800 ∨ 0xE000 ≤ c.toNat := by
  rcases c.valid with h | h
  · exact .inl h
  · exact .inr (Nat.succ_le_of_lt h.1)

@[simp] theorem ofNat_toNat (p : Point) : ofNat p.toNat = p := by
  cases p with
  | char c =>
    have hc := toNat_char_lt_or c
    rw [ofNat, dif_neg (by simp only [toNat_char]; omega), toNat_char, Char.ofNat_toNat]
  | half n =>
    have hn : (half n).toNat = 0xD800 + n := rfl
    rw [ofNat, dif_pos (by omega)]
    simp [hn]

/-- The halves, by their numbers. -/
theorem isHalf_iff {p : Point} : p.isHalf = true ↔ 0xD800 ≤ p.toNat ∧ p.toNat < 0xE000 := by
  cases p with
  | char c =>
    have hc := toNat_char_lt_or c
    rw [isHalf_char, toNat_char]
    exact iff_of_false Bool.false_ne_true (by omega)
  | half n =>
    have hn : (half n).toNat = 0xD800 + n := rfl
    exact iff_of_true rfl (by omega)

theorem toNat_inj {p q : Point} : p.toNat = q.toNat ↔ p = q :=
  ⟨fun h => by rw [← ofNat_toNat p, h, ofNat_toNat], fun h => h ▸ rfl⟩

instance : LE Point := ⟨fun p q => p.toNat ≤ q.toNat⟩

instance (p q : Point) : Decidable (p ≤ q) := inferInstanceAs (Decidable (p.toNat ≤ q.toNat))

/-! ## Latin letters and digits -/

/-- A property of characters, which no half has. -/
def isCharWith (property : Char → Bool) : Point → Bool
  | char c => property c
  | half _ => false

/-- A change of characters, which leaves halves as they are. -/
def mapChar (change : Char → Char) : Point → Point
  | char c => char (change c)
  | half n => half n

/-- The digits from `0` to `9`. -/
def isDigit : Point → Bool := isCharWith Char.isDigit

/-- The letters of the Latin alphabet. -/
def isAlpha : Point → Bool := isCharWith Char.isAlpha

/-- The capital letters of the Latin alphabet. -/
def isUpper : Point → Bool := isCharWith Char.isUpper

/-- The letters of the Latin alphabet and the digits. -/
def isAlphanum (p : Point) : Bool := p.isAlpha || p.isDigit

/-- Capital letters of the Latin alphabet become small ones. -/
def toLower : Point → Point := mapChar Char.toLower

/-- Small letters of the Latin alphabet become capital ones. -/
def toUpper : Point → Point := mapChar Char.toUpper

@[simp] theorem isDigit_char (c : Char) : (char c).isDigit = c.isDigit := rfl

theorem isDigit_iff {p : Point} : p.isDigit = true ↔ 48 ≤ p.toNat ∧ p.toNat ≤ 57 := by
  cases p with
  | char c => exact Char.isDigit_iff_toNat
  | half n =>
    have hn : (half n).toNat = 0xD800 + n := rfl
    exact iff_of_false nofun (by omega)

theorem isAlpha_iff {p : Point} :
    p.isAlpha = true ↔ (65 ≤ p.toNat ∧ p.toNat ≤ 90) ∨ (97 ≤ p.toNat ∧ p.toNat ≤ 122) := by
  cases p with
  | char c =>
    have hcases : (char c).isAlpha = (decide ('A'.val ≤ c.val ∧ c.val ≤ 'Z'.val) ||
      (decide ('a'.val ≤ c.val) && decide (c.val ≤ 'z'.val))) := rfl
    simp [hcases, UInt32.le_iff_toNat_le, ← Char.toNat_val]
  | half n =>
    have hn : (half n).toNat = 0xD800 + n := rfl
    exact iff_of_false nofun (by omega)

end Point

end Stencil
