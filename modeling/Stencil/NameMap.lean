import Stencil.Text.Basic

/-!
# Maps from names, in order

* **Ordered maps** (`NameMap`): each name has one entry, and entries keep the order in which their names came in.
* **Operations**: `insert` replaces an entry in place or appends one, `erase` removes one, so that a name that comes
  back comes last. `get?_insert`, `get?_erase`, `names_insert` and `names_erase` describe them.
-/

namespace Stencil

/-- Entries under distinct names, in order. -/
structure NameMap (α : Type) where
  entries : List (Text × α)
  nodup : (entries.map Prod.fst).Nodup

namespace NameMap

variable {α : Type}

/-! ## Lists of entries -/

/-- The first entry of a name. -/
def find? (name : Text) : List (Text × α) → Option α
  | [] => none
  | (k, a) :: rest => if k = name then some a else find? name rest

/-- The entries with one for a name, in place or at the end. -/
def put (name : Text) (a : α) : List (Text × α) → List (Text × α)
  | [] => [(name, a)]
  | (k, b) :: rest => if k = name then (name, a) :: rest else (k, b) :: put name a rest

theorem map_fst_put (name : Text) (a : α) : ∀ es : List (Text × α),
    (put name a es).map Prod.fst = if name ∈ es.map Prod.fst then es.map Prod.fst else es.map Prod.fst ++ [name]
  | [] => rfl
  | (k, b) :: rest => by
    by_cases h : k = name
    · simp [put, h]
    · have h' : ¬ name = k := fun e => h e.symm
      simp only [put, h, if_false, List.map_cons, map_fst_put name a rest, List.mem_cons, h', false_or]
      split <;> simp

theorem find?_put (name other : Text) (a : α) : ∀ es : List (Text × α),
    find? other (put name a es) = if other = name then some a else find? other es
  | [] => by by_cases h : name = other <;> simp [put, find?, h, eq_comm]
  | (k, b) :: rest => by
    have ih := find?_put name other a rest
    by_cases h : k = name
    · by_cases ho : other = name
      · simp [put, find?, h, ho]
      · have : ¬ name = other := fun e => ho e.symm
        simp [put, find?, h, ho, this]
    · by_cases ho : k = other
      · have : ¬ other = name := fun e => h (ho.trans e)
        simp [put, find?, ho, this]
      · simp [put, find?, h, ho, ih]

theorem find?_filter (name other : Text) : ∀ es : List (Text × α),
    find? other (es.filter (·.1 ≠ name)) = if other = name then none else find? other es
  | [] => by simp [find?]
  | (k, b) :: rest => by
    have ih := find?_filter name other rest
    by_cases h : k = name
    · by_cases ho : other = name
      · simp_all
      · have : ¬ name = other := fun e => ho e.symm
        simp_all [find?]
    · by_cases ho : k = other
      · have : ¬ other = name := fun e => h (ho.trans e)
        simp_all [find?]
      · simp_all [find?]

theorem find?_eq_none_iff (name : Text) : ∀ es : List (Text × α),
    find? name es = none ↔ name ∉ es.map Prod.fst
  | [] => by simp [find?]
  | (k, b) :: rest => by
    by_cases h : k = name
    · simp [find?, h]
    · have h' : ¬ name = k := fun e => h e.symm
      simp [find?, h, h', find?_eq_none_iff name rest]

/-! ## Maps -/

/-- The map without entries. -/
def empty : NameMap α := ⟨[], List.nodup_nil⟩

/-- The entry of a name. -/
def get? (m : NameMap α) (name : Text) : Option α := find? name m.entries

/-- The names in order. -/
def names (m : NameMap α) : List Text := m.entries.map Prod.fst

/-- The entries without their names, in order. -/
def values (m : NameMap α) : List α := m.entries.map Prod.snd

/-- The map with an entry for a name, in the place of its old entry or at the end. -/
def insert (m : NameMap α) (name : Text) (a : α) : NameMap α where
  entries := put name a m.entries
  nodup := by
    rw [map_fst_put]
    split
    · exact m.nodup
    · rename_i h
      refine List.nodup_append.mpr ⟨m.nodup, by simp, ?_⟩
      intro x hx y hy e
      rw [List.mem_singleton] at hy
      exact h (hy ▸ e ▸ hx)

/-- The map without the entry of a name. -/
def erase (m : NameMap α) (name : Text) : NameMap α where
  entries := m.entries.filter (·.1 ≠ name)
  nodup := m.nodup.sublist (List.filter_sublist.map _)

@[simp] theorem get?_empty (name : Text) : (empty : NameMap α).get? name = none := rfl

theorem get?_insert (m : NameMap α) (name other : Text) (a : α) :
    (m.insert name a).get? other = if other = name then some a else m.get? other :=
  find?_put name other a m.entries

theorem get?_erase (m : NameMap α) (name other : Text) :
    (m.erase name).get? other = if other = name then none else m.get? other :=
  find?_filter name other m.entries

theorem get?_eq_none_iff (m : NameMap α) (name : Text) : m.get? name = none ↔ name ∉ m.names :=
  find?_eq_none_iff name m.entries

theorem names_insert (m : NameMap α) (name : Text) (a : α) :
    (m.insert name a).names = if name ∈ m.names then m.names else m.names ++ [name] :=
  map_fst_put name a m.entries

theorem names_erase (m : NameMap α) (name : Text) : (m.erase name).names = m.names.filter (· ≠ name) := by
  simp [names, erase, List.filter_map, Function.comp_def]

end NameMap

end Stencil
