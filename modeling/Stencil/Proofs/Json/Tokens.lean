import Mathlib.Data.List.Basic
import Mathlib.Data.Option.Basic
import Stencil.Json.Reader
import Stencil.Proofs.Slots.Tokens
import Stencil.Value.Structured

/-!
# Written tokens are read back

* **Strings** (`stringTail?_literal`): an escape reads as the character it stands for. An escape of four digits is one
  character whatever follows it, since no control character is half of a pair.
* **Integers** (`number_digits`): the digits of an integer are all read, since only zero starts with a zero, up to what
  may follow a written value (`Closing`).
-/

namespace Stencil

open Value (escaped)

/-! ## Texts of a file -/

namespace Text

/-- A text that a file keeps as it is: without halves, which have no encoding, and without carriage returns, which
become newlines. -/
def Kept (t : Text) : Prop := ∀ p ∈ t, p ≠ '\r' ∧ p.isHalf = false

instance (t : Text) : Decidable (Kept t) := inferInstanceAs (Decidable (∀ p ∈ t, p ≠ '\r' ∧ p.isHalf = false))

@[simp] theorem kept_nil : Kept [] := List.forall_mem_nil _

@[simp] theorem kept_cons {p : Point} {t : Text} : Kept (p :: t) ↔ (p ≠ '\r' ∧ p.isHalf = false) ∧ Kept t :=
  List.forall_mem_cons

@[simp] theorem kept_append {t u : Text} : Kept (t ++ u) ↔ Kept t ∧ Kept u := List.forall_mem_append

end Text

/-! ## Digits -/

namespace Text

theorem hexValue?_of_isDigit {c : Point} (h : c.isDigit = true) : hexValue? c = some (c.toNat - 48) := by
  have hrange : '0' ≤ c ∧ c ≤ '9' := Point.isDigit_iff.1 h
  rw [hexValue?, if_pos hrange]

theorem toNat_sub_of_isDigit {c : Point} (h : c.isDigit = true) : c.toNat - 48 < 10 := by
  have hrange := Point.isDigit_iff.1 h
  omega

/-- The digits of a number write it in base ten. -/
theorem inBase?_ofNat (n : Nat) : inBase? 10 (ofNat n) = some n := by
  have hread : ∀ (ds : List Char) (acc : Nat), (∀ c ∈ ds, c.isDigit = true) →
      (ds.map Point.char).foldl (fun acc c => acc.bind fun n => (hexValue? c).bind fun d =>
        if d < 10 then some (10 * n + d) else none) (some acc) = some (Nat.ofDigitChars 10 ds acc) := by
    intro ds
    induction ds with
    | nil => exact fun _ _ => rfl
    | cons c cs ih =>
      intro acc h
      obtain ⟨hc, hcs⟩ := List.forall_mem_cons.1 h
      have hp : (Point.char c).isDigit = true := hc
      rw [List.map_cons, List.foldl_cons, Option.bind_some, hexValue?_of_isDigit hp, Option.bind_some,
        if_pos (toNat_sub_of_isDigit hp), ih _ hcs, Nat.ofDigitChars_cons]
      rfl
  have hne : (ofNat n).isEmpty = false := List.isEmpty_eq_false_iff.2 (ofNat_ne_nil n)
  have hdigits : ∀ c ∈ Nat.toDigits 10 n, c.isDigit = true :=
    fun c hc => Nat.isDigit_of_mem_toDigits (by omega) (by omega) hc
  rw [inBase?, hne, if_neg (by decide), ofNat, hread _ 0 hdigits, Nat.ofDigitChars_ten_toDigits]

/-- A number starts with a digit. -/
theorem ofNat_eq_cons (n : Nat) : ∃ d ds, ofNat n = d :: ds ∧ d.isDigit = true := by
  obtain ⟨d, ds, hds⟩ := List.exists_cons_of_ne_nil (ofNat_ne_nil n)
  exact ⟨d, ds, hds, isDigit_ofNat (n := n) (by rw [hds]; exact List.mem_cons_self)⟩

/-- Only zero starts with a zero. -/
theorem head?_ofNat {n : Nat} (h : 0 < n) : (ofNat n).head? ≠ some (Point.char '0') := by
  have hsmall : ∀ n < 10, 0 < n → [Point.char n.digitChar].head? ≠ some (Point.char '0') := by decide
  induction n using Nat.strongRecOn with
  | _ n ih =>
    by_cases hn : n < 10
    · rw [ofNat, Nat.toDigits_of_lt_base hn]
      exact hsmall n hn h
    · have hsplit : ofNat n = ofNat (n / 10) ++ [Point.char (n % 10).digitChar] := by
        rw [ofNat, Nat.toDigits_of_base_le (by omega) (by omega), List.map_append]
        rfl
      rw [hsplit, List.head?_append_of_ne_nil _ (ofNat_ne_nil _)]
      exact ih (n / 10) (by omega) (by omega)

end Text

namespace Json

/-! ## Strings -/

/-- An escape of four digits is read as its character, unless that is half of a pair. -/
theorem unicodeEscape?_of_unit {a b c d : Point} {n : Nat} (hn : unit? a b c d = some n) (hlow : n < 0xD800)
    (t : Text) : unicodeEscape? (a :: b :: c :: d :: t) = some (Point.ofNat n, t) := by
  unfold unicodeEscape?
  split
  · rename_i a' b' c' d' rest heq
    cases heq
    have hnone : (unit? a' b' c' d').bind (pairChar? n) = none := by
      cases unit? a' b' c' d' with
      | none => rfl
      | some low => exact if_neg (by omega)
    rw [hn, Option.map_some, hnone]
  · rename_i heq
    cases heq
    rw [hn]
    rfl
  · rename_i hno
    exact absurd rfl (hno a b c d t)

/-- The four digits of a control character write its number. -/
theorem unit?_hex {n : Nat} (h : n < 32) : ∃ a b c d, Text.hex 4 n = [a, b, c, d] ∧ unit? a b c d = some n := by
  have hwritten : ∀ n < 32, (Text.hex 4 n).length = 4 ∧ Text.inBase? 16 (Text.hex 4 n) = some n := by decide
  obtain ⟨hlength, hvalue⟩ := hwritten n h
  obtain ⟨a, b, c, d, hdigits⟩ := List.length_eq_four.1 hlength
  refine ⟨a, b, c, d, hdigits, ?_⟩
  rw [unit?, ← hdigits]
  exact hvalue

theorem escaped_ne_nil (c : Point) : escaped c ≠ [] := by
  unfold escaped
  split <;> try exact List.cons_ne_nil _ _
  split <;> exact List.cons_ne_nil _ _

/-- A carriage return is written as an escape, which a file keeps. -/
theorem kept_escaped {c : Point} (h : c.isHalf = false) : Text.Kept (escaped c) := by
  have hdigits : ∀ n < 32, Text.Kept (Text.hex 4 n) := by decide
  unfold escaped
  split
  · decide
  · decide
  · decide
  · decide
  · decide
  · decide
  · decide
  · rename_i hreturn _ _ _
    split
    · rename_i hcontrol
      simpa using hdigits _ hcontrol
    · simpa [h] using hreturn

/-- A character before the string that is read from a text. -/
def consString (c : Point) (o : Option (Text × Text)) : Option (Text × Text) := o.map fun p => (c :: p.1, p.2)

theorem stringTail?_plain {c : Point} (hquote : c ≠ '"') (hbackslash : c ≠ '\\') (hc : ¬ c.toNat < 0x20) (fuel : Nat)
    (t : Text) : stringTail? (fuel + 1) (c :: t) = consString c (stringTail? fuel t) := by
  have hguard : (guard (0x20 ≤ c.toNat ∧ c ≠ '\\') : Option Unit) = some () := if_pos ⟨Nat.not_lt.1 hc, hbackslash⟩
  rw [stringTail?, hguard]
  · cases stringTail? fuel t <;> rfl
  · exact hquote
  · exact fun _ h => absurd h hbackslash
  · exact fun _ _ h => absurd h hbackslash

theorem stringTail?_escape {c d : Point} (hd : escape? c = some d) (fuel : Nat) (t : Text) :
    stringTail? (fuel + 1) ('\\' :: c :: t) = consString d (stringTail? fuel t) := by
  have hunicode : c ≠ 'u' := by
    rintro rfl
    cases hd
  rw [stringTail?, hd]
  · cases stringTail? fuel t <;> rfl
  · exact hunicode

theorem stringTail?_unicode {c : Point} {t u : Text} (h : unicodeEscape? t = some (c, u)) (fuel : Nat) :
    stringTail? (fuel + 1) ('\\' :: 'u' :: t) = consString c (stringTail? fuel u) := by
  rw [stringTail?, h]
  simp only [Option.bind_eq_bind, Option.bind_some]
  cases stringTail? fuel u <;> rfl

/-- A character is read back before what follows it. -/
theorem stringTail?_escaped (c : Point) (fuel : Nat) (t : Text) :
    stringTail? (fuel + 1) (escaped c ++ t) = consString c (stringTail? fuel t) := by
  unfold escaped
  split
  · exact stringTail?_escape rfl fuel t
  · exact stringTail?_escape rfl fuel t
  · exact stringTail?_escape rfl fuel t
  · exact stringTail?_escape rfl fuel t
  · exact stringTail?_escape rfl fuel t
  · exact stringTail?_escape rfl fuel t
  · exact stringTail?_escape rfl fuel t
  · rename_i hquote hbackslash _ _ _ _ _
    -- a control character without a letter of its own, or a character that stays as it is
    split
    · rename_i hcontrol
      obtain ⟨x, y, z, w, hdigits, hunit⟩ := unit?_hex hcontrol
      have hread := unicodeEscape?_of_unit hunit (by omega) t
      rw [Point.ofNat_toNat] at hread
      rw [hdigits]
      exact stringTail?_unicode hread fuel
    · rename_i hprinted
      exact stringTail?_plain hquote hbackslash hprinted fuel t

/-- A written string is read back, with fuel for each of its characters. -/
theorem stringTail?_of_fuel (s rest : Text) : ∀ {fuel : Nat}, s.length < fuel →
    stringTail? fuel (s.flatMap escaped ++ Point.char '"' :: rest) = some (s, rest) := by
  induction s with
  | nil =>
    intro fuel hfuel
    obtain ⟨n, rfl⟩ := Nat.exists_eq_succ_of_ne_zero (Nat.ne_of_gt hfuel)
    rfl
  | cons c cs ih =>
    intro fuel hfuel
    obtain ⟨n, rfl⟩ := Nat.exists_eq_succ_of_ne_zero (Nat.ne_of_gt (Nat.zero_lt_of_lt hfuel))
    rw [List.flatMap_cons, List.append_assoc, stringTail?_escaped, ih (Nat.lt_of_succ_lt_succ hfuel)]
    rfl

theorem length_le_flatMap_escaped (s : Text) : s.length ≤ (s.flatMap escaped).length := by
  induction s with
  | nil => exact Nat.zero_le _
  | cons c cs ih =>
    have hc := List.length_pos_iff.2 (escaped_ne_nil c)
    rw [List.flatMap_cons, List.length_append, List.length_cons]
    omega

/-- **A written string is read back**, up to its closing quote. -/
theorem stringTail?_literal (s : Text) {t rest : Text} (ht : t = s.flatMap escaped ++ Point.char '"' :: rest) :
    stringTail? (t.length + 1) t = some (s, rest) := by
  have hlength := length_le_flatMap_escaped s
  rw [ht]
  refine stringTail?_of_fuel s rest ?_
  rw [List.length_append]
  omega

/-! ## Integers -/

/-- What may follow a written value: nothing, a comma or a newline. -/
def Closing (rest : Text) : Prop := ∀ c, rest.head? = some c → c = ',' ∨ c = '\n'

theorem closing_nil : Closing [] := fun _ h => absurd h (by simp)

theorem closing_cons {c : Point} (h : c = ',' ∨ c = '\n') (t : Text) : Closing (c :: t) := by
  intro d hd
  cases hd
  exact h

variable {rest : Text}

theorem Closing.takeWhile_isDigit (h : Closing rest) : rest.takeWhile Point.isDigit = [] := by
  cases rest with
  | nil => rfl
  | cons c cs => obtain rfl | rfl := h c rfl <;> rfl

/-- A number ends before what may follow a value. -/
theorem Closing.no_parts (h : Closing rest) : fractionPart rest = [] ∧ exponentPart rest = [] := by
  cases rest with
  | nil => exact ⟨rfl, rfl⟩
  | cons c cs => obtain rfl | rfl := h c rfl <;> exact ⟨rfl, rfl⟩

/-- The digits of a number are all read. -/
theorem wholeDigits_ofNat (n : Nat) (h : Closing rest) : wholeDigits (Text.ofNat n ++ rest) = Text.ofNat n := by
  unfold wholeDigits
  split
  · rename_i heq
    obtain hn | hn := Nat.eq_zero_or_pos n
    · subst hn
      rfl
    · have hhead : (Text.ofNat n ++ rest).head? = (Text.ofNat n).head? :=
        List.head?_append_of_ne_nil _ (Text.ofNat_ne_nil n)
      rw [heq] at hhead
      exact absurd hhead.symm (Text.head?_ofNat hn)
  · rw [List.takeWhile_append_of_pos fun _ => Text.isDigit_ofNat, h.takeWhile_isDigit, List.append_nil]

/-- The text of an integer is read back. -/
theorem number_digits {limit : Nat} {n : Int} (hn : (Text.ofNat n.natAbs).length ≤ limit) (h : Closing rest) :
    number limit (Text.ofInt n ++ rest) = .ok (.int n, rest) := by
  have hdrop : (Text.ofNat n.natAbs ++ rest).drop (Text.ofNat n.natAbs).length = rest := List.drop_left
  have hne : (Text.ofNat n.natAbs).isEmpty = false := List.isEmpty_eq_false_iff.2 (Text.ofNat_ne_nil _)
  have hvalue : Binary64.plainDigits (Text.ofNat n.natAbs) = n.natAbs := by
    rw [Binary64.plainDigits, Text.inBase?_ofNat, Option.getD_some]
  obtain ⟨hfraction, hexponent⟩ := h.no_parts
  have hlimit : ¬ (Text.ofNat n.natAbs).length > limit := Nat.not_lt.2 hn
  unfold Text.ofInt number
  split_ifs with hneg
  · have hsign : -(n.natAbs : Int) = n := by omega
    simp only [List.cons_append, wholeDigits_ofNat _ h, hne, hdrop, hfraction, hexponent, hvalue, hlimit, hsign,
      List.length_nil, Nat.add_zero, List.drop_zero, List.isEmpty_nil, Bool.and_self, Bool.false_eq_true, if_false,
      if_true]
  · have hsign : (n.natAbs : Int) = n := by omega
    split
    rename_i heq
    split at heq
    · rename_i hminus
      obtain ⟨d, ds, hds, hd⟩ := Text.ofNat_eq_cons n.natAbs
      rw [hds] at hminus
      cases hminus
      exact absurd hd (by decide)
    · cases heq
      simp only [wholeDigits_ofNat _ h, hne, hdrop, hfraction, hexponent, hvalue, hlimit, hsign,
        List.length_nil, Nat.add_zero, List.drop_zero, List.isEmpty_nil, Bool.and_self, Bool.false_eq_true, if_false,
        if_true]

/-! ## Values without parts -/

section Values

variable {limit fuel : Nat}

theorem value_null : value limit (fuel + 1) ("null".text ++ rest) = .ok (.null, rest) := rfl

theorem value_bool (b : Bool) :
    value limit (fuel + 1) ((if b then "true".text else "false".text) ++ rest) = .ok (.bool b, rest) := by
  cases b <;> rfl

theorem value_string (s : Text) :
    value limit (fuel + 1) (Value.stringLiteral s ++ rest) = .ok (.str s, rest) := by
  rw [Value.stringLiteral, List.cons_append, value, stringTail?_literal s (List.append_assoc _ _ _)]
  rfl

/-- A text that starts as no string, no container and no word is a number. -/
theorem value_of_head {c : Point} {t : Text} (hstring : c ≠ '"') (hlist : c ≠ '[') (hrecord : c ≠ '{')
    (hword : word? (c :: t) = none) : value limit (fuel + 1) (c :: t) = number limit (c :: t) := by
  rw [value, hword]
  · exact fun _ h => hstring (List.cons.inj h).1
  · exact fun _ h => hlist (List.cons.inj h).1
  · exact fun _ h => hrecord (List.cons.inj h).1

theorem value_int {n : Int} (hn : (Text.ofNat n.natAbs).length ≤ limit) (h : Closing rest) :
    value limit (fuel + 1) (Text.ofInt n ++ rest) = .ok (.int n, rest) := by
  have hread := number_digits hn h
  obtain ⟨d, ds, hds, hd⟩ := Text.ofNat_eq_cons n.natAbs
  -- a digit starts no other value
  have hne : ∀ c : Char, c.isDigit = false → Point.char c ≠ d := by
    rintro c hc rfl
    exact absurd hd (by simp [hc])
  unfold Text.ofInt at hread ⊢
  rw [hds] at hread ⊢
  split_ifs at hread ⊢ with hneg
  · rw [← hread]
    refine value_of_head (by decide) (by decide) (by decide) ?_
    simp [word?, words, Text.after?, String.text, hne]
  · rw [← hread]
    refine value_of_head (hne _ rfl).symm (hne _ rfl).symm (hne _ rfl).symm ?_
    simp [word?, words, Text.after?, String.text, hne]

end Values

end Json

end Stencil
