import Stencil.Value.Basic

/-!
# Which entry of a name is read

* **Keys** (`Value.text?_eq_of_sameKey`): keys that are the same are the same text, or no text at all.
* **Precedence** (`Fields.get?_update`): of the entries of a name, the one inserted last is read.
-/

namespace Stencil

/-! ## Keys -/

namespace Value

theorem text?_eq_some {v : Value} {t : Text} (h : v.text? = some t) : v = .str t := by
  cases v with
  | str u => rw [Option.some.inj h]
  | _ => cases h

/-- Equal keys are texts alike or not at all. -/
theorem text?_eq_of_sameKey {k k' : Value} (h : k.sameKey k' = true) : k.text? = k'.text? := by
  cases k with
  | str t => cases k' <;> simp_all [sameKey, asInt?, text?]
  | _ =>
    cases k' with
    | str u => simp [sameKey, asInt?] at h
    | _ => rfl

theorem sameKey_str (t : Text) : (str t).sameKey (str t) = true := by simp [sameKey]

end Value

/-! ## Precedence -/

namespace Fields

/-- The value of the last entry of a name. -/
def last? (fields : Fields) (n : Text) : Option Value := get? fields.reverse n

theorem get?_cons (k v : Value) (rest : Fields) (n : Text) :
    get? ((k, v) :: rest) n = if k.text? = some n then some v else get? rest n := by
  cases k <;> simp [get?, Value.text?]

theorem get?_append (n : Text) (more fields : Fields) :
    get? (fields ++ more) n = (fields.get? n).or (more.get? n) := by
  induction fields with
  | nil => rfl
  | cons entry rest ih =>
    obtain ⟨k, v⟩ := entry
    rw [List.cons_append, get?_cons, get?_cons, ih]
    split <;> rfl

theorem last?_cons (k v : Value) (rest : Fields) (n : Text) :
    last? ((k, v) :: rest) n = (rest.last? n).or (if k.text? = some n then some v else none) := by
  rw [last?, List.reverse_cons, get?_append, get?_cons]
  rfl

/-- An inserted entry is read, and no other changes. -/
theorem get?_insert (k v : Value) (n : Text) (fields : Fields) :
    (fields.insert k v).get? n = if k.text? = some n then some v else fields.get? n := by
  induction fields with
  | nil => exact get?_cons k v [] n
  | cons entry rest ih =>
    obtain ⟨k', w⟩ := entry
    have hrest : get? (insertWith Value.sameKey k v rest) n = if k.text? = some n then some v else get? rest n := ih
    rw [insert, insertWith, get?_cons]
    by_cases hsame : k'.sameKey k = true
    · rw [if_pos hsame, get?_cons, Value.text?_eq_of_sameKey hsame]
      split <;> rfl
    · rw [if_neg hsame, get?_cons, hrest]
      split
      · rename_i hk'
        have hk : k.text? ≠ some n := fun hk => hsame (by
          rw [Value.text?_eq_some hk', Value.text?_eq_some hk]
          exact Value.sameKey_str n)
        rw [if_neg hk]
      · rfl

/-- Of the entries of a name, the one inserted last is read. -/
theorem get?_update (n : Text) (extra fields : Fields) :
    (fields.update extra).get? n = (extra.last? n).or (fields.get? n) := by
  induction extra generalizing fields with
  | nil => rfl
  | cons entry rest ih =>
    obtain ⟨k, v⟩ := entry
    have hstep : (fields.update ((k, v) :: rest)) = (fields.insert k v).update rest := rfl
    rw [hstep, ih, get?_insert, last?_cons, Option.or_assoc]
    split <;> rfl

theorem get?_ofList (n : Text) (entries : Fields) : (ofList entries).get? n = entries.last? n :=
  (get?_update n entries []).trans Option.or_none

end Fields

end Stencil
