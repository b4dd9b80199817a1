import Stencil.Proofs.Json.Tokens
import Stencil.Proofs.Value.Structured

/-!
# Structured texts are read back

* **Portable values** (`Value.Portable`): null, booleans, integers within the digit limit, texts of characters, and
  sequences and records of these, where the keys of a record are different texts.
* **Read back** (`Json.Reads`): a text that reads as a value before whatever may follow it. Each portable value has
  a structured text, and that text reads as the value with its tuples as lists (`reads_of_portable`). The induction is
  on the value; the texts of a container are read from one on to its closing bracket (`elements_reads`,
  `members_reads`), with fuel for two steps a character.
-/

namespace Stencil

namespace Text

theorem join_singleton (separator t : Text) : join separator [t] = t := List.intercalate_singleton

/-- A joined text starts with its first part. -/
theorem join_cons_eq (separator t : Text) (ts : List Text) : ∃ u, join separator (t :: ts) = t ++ u := by
  cases ts with
  | nil => exact ⟨[], by rw [join_singleton, List.append_nil]⟩
  | cons t' ts => exact ⟨_, by rw [join_cons_cons, List.append_assoc]⟩

end Text

/-- Entries with texts as keys. -/
def Fields.named (entries : List (Text × Value)) : Fields := entries.map fun e => (.str e.1, e.2)

namespace Value

/-- A value that keeps its form in a structured text, up to the form of its sequences. -/
inductive Portable : Value → Prop
  | null : Portable .null
  | bool (b : Bool) : Portable (.bool b)
  | int {n : Int} : (Text.ofNat n.natAbs).length ≤ digitLimit → Portable (.int n)
  | str {t : Text} : t.Scalar → Portable (.str t)
  | list {items : List Value} : (∀ x ∈ items, Portable x) → Portable (.list items)
  | tuple {items : List Value} : (∀ x ∈ items, Portable x) → Portable (.tuple items)
  | record {entries : List (Text × Value)} : (entries.map Prod.fst).Nodup → (∀ e ∈ entries, e.1.Scalar) →
      (∀ e ∈ entries, Portable e.2) → Portable (.record (Fields.named entries))

mutual

/-- A value with its tuples as lists, at any depth. -/
def asLists : Value → Value
  | list items => list (allAsLists items)
  | tuple items => list (allAsLists items)
  | record entries => record (fieldsAsLists entries)
  | v => v

/-- Values with their tuples as lists. -/
def allAsLists : List Value → List Value
  | [] => []
  | v :: vs => asLists v :: allAsLists vs

/-- Entries with the tuples of their values as lists. -/
def fieldsAsLists : List (Value × Value) → List (Value × Value)
  | [] => []
  | (k, v) :: rest => (k, asLists v) :: fieldsAsLists rest

end

theorem allAsLists_eq (items : List Value) : allAsLists items = items.map asLists := by
  induction items with
  | nil => rfl
  | cons x xs ih => rw [allAsLists, ih, List.map_cons]

theorem fieldsAsLists_named (entries : List (Text × Value)) :
    fieldsAsLists (Fields.named entries) = Fields.named (entries.map fun e => (e.1, e.2.asLists)) := by
  induction entries with
  | nil => rfl
  | cons e rest ih =>
    change (Value.str e.1, e.2.asLists) :: fieldsAsLists (Fields.named rest) = _
    rw [ih]
    rfl

end Value

namespace Json

open Value (newline bracketed stringLiteral structuredAt?)

variable {t u rest after : Text} {v : Value} {level fuel limit : Nat}

/-! ## Blanks -/

theorem skip_cons {c : Point} (h : isSpace c = false) (t : Text) : skip (c :: t) = c :: t := by
  rw [skip, List.dropWhile_cons, h]
  rfl

theorem skip_newline (level : Nat) (t : Text) : skip (newline level ++ t) = skip t := by
  have hblank : ∀ c ∈ newline level, isSpace c = true := by
    intro c hc
    rcases List.mem_cons.1 hc with rfl | hc
    · decide
    · rw [(List.mem_replicate.1 hc).2]
      decide
  exact List.dropWhile_append_of_pos hblank

theorem closing_newline (level : Nat) (t : Text) : Closing (newline level ++ t) := closing_cons (.inr rfl) _

/-! ## Steps -/

/-- A list with elements is read from its first element on. -/
theorem value_list {items : List Value} (hskip : skip t = u) (hu : u.head? ≠ some (Point.char ']'))
    (hitems : elements limit fuel u = .ok (items, rest)) :
    value limit (fuel + 1) ('[' :: t) = .ok (.list items, rest) := by
  rw [value, hskip]
  split
  · exact absurd rfl hu
  · rw [hitems]
    rfl

/-- A record with entries is read from its first entry on. -/
theorem value_record {entries : Fields} (hskip : skip t = u) (hu : u.head? ≠ some (Point.char '}'))
    (hentries : members limit fuel u [] = .ok (entries, rest)) :
    value limit (fuel + 1) ('{' :: t) = .ok (.record entries, rest) := by
  rw [value, hskip]
  split
  · exact absurd rfl hu
  · rw [hentries]
    rfl

theorem elements_last (hv : value limit fuel t = .ok (v, after)) (hskip : skip after = Point.char ']' :: rest) :
    elements limit (fuel + 1) t = .ok ([v], rest) := by
  rw [elements, hv]
  simp only [bind, Except.bind, hskip]
  rfl

theorem elements_more {items : List Value} (hv : value limit fuel t = .ok (v, after))
    (hskip : skip after = Point.char ',' :: u) (hitems : elements limit fuel (skip u) = .ok (items, rest)) :
    elements limit (fuel + 1) t = .ok (v :: items, rest) := by
  rw [elements, hv]
  simp only [bind, Except.bind, hskip, hitems]
  rfl

/-- The text of an entry, given that of its value. -/
def entryText (key t : Text) : Text := stringLiteral key ++ ": ".text ++ t

theorem entryText_eq (key t : Text) :
    entryText key t = Point.char '"' :: (key.flatMap Value.escaped ++ Point.char '"' :: ':' :: ' ' :: t) := by
  simp [entryText, stringLiteral, String.text]

theorem entryText_append (key t u : Text) : entryText key t ++ u = entryText key (t ++ u) := List.append_assoc _ _ _

theorem members_last (key : Text) (entries : Fields) (hhead : skip t = t) (hv : value limit fuel t = .ok (v, after))
    (hskip : skip after = Point.char '}' :: rest) :
    members limit (fuel + 1) (entryText key t) entries = .ok (addEntry key v entries, rest) := by
  have hblank : skip (' ' :: t) = t := hhead
  rw [entryText_eq, members, stringTail?_literal key rfl]
  simp only [skip_cons (show isSpace ':' = false from rfl), hblank, hv]
  simp only [bind, Except.bind, hskip]
  rfl

theorem members_more (key : Text) {entries entries' : Fields} (hhead : skip t = t)
    (hv : value limit fuel t = .ok (v, after)) (hskip : skip after = Point.char ',' :: u)
    (hentries : members limit fuel (skip u) (addEntry key v entries) = .ok (entries', rest)) :
    members limit (fuel + 1) (entryText key t) entries = .ok (entries', rest) := by
  have hblank : skip (' ' :: t) = t := hhead
  rw [entryText_eq, members, stringTail?_literal key rfl]
  simp only [skip_cons (show isSpace ':' = false from rfl), hblank, hv]
  simp only [bind, Except.bind, hskip, hentries]

/-- A new key is added at the end. -/
theorem addEntry_named {key : Text} {entries : List (Text × Value)} (h : key ∉ entries.map Prod.fst) (v : Value) :
    addEntry key v (Fields.named entries) = Fields.named (entries ++ [(key, v)]) := by
  induction entries with
  | nil => rfl
  | cons e rest ih =>
    rw [List.map_cons, List.mem_cons, not_or] at h
    have hsame : ((Value.str e.1).text? == (Value.str key).text?) = false := by
      simpa [Value.text?] using Ne.symm h.1
    have hinsert := ih h.2
    unfold addEntry at hinsert ⊢
    change Fields.insertWith _ _ _ ((Value.str e.1, e.2) :: Fields.named rest) = _
    rw [Fields.insertWith, hsame, if_neg (by decide), hinsert]
    rfl

/-! ## Texts that are read back -/

/-- A text that reads as a value before whatever may follow it, and that can stand in an array and in a file. -/
structure Reads (t : Text) (v : Value) : Prop where
  head : ∃ c, t.head? = some c ∧ isSpace c = false ∧ c ≠ ']'
  kept : t.Kept
  value {fuel : Nat} {rest : Text} : 2 * t.length ≤ fuel → Closing rest →
    value digitLimit (fuel + 1) (t ++ rest) = .ok (v, rest)

theorem Reads.skip_append (h : Reads t v) (u : Text) : skip (t ++ u) = t ++ u := by
  obtain ⟨c, hhead, hc, -⟩ := h.head
  obtain ⟨cs, rfl⟩ := List.head?_eq_some_iff.1 hhead
  exact skip_cons hc _

/-- The text of an entry whose value is read back. -/
def EntryReads (e : Text × Value) (text : Text) : Prop := e.1.Scalar ∧ ∃ t, Reads t e.2 ∧ text = entryText e.1 t

theorem skip_entryText (key t u : Text) : skip (entryText key t ++ u) = entryText key t ++ u := by
  rw [entryText_eq]
  exact skip_cons rfl _

/-! ## Parts of a container -/

/-- What separates the parts of a container at a level. -/
def separator (level : Nat) : Text := ',' :: newline level

theorem head?_join {c : Point} (h : t.head? = some c) (ts : List Text) (after : Text) :
    (Text.join (separator level) (t :: ts) ++ after).head? = some c := by
  obtain ⟨u, hu⟩ := Text.join_cons_eq (separator level) t ts
  rw [hu, List.append_assoc, List.head?_append, h]
  rfl

/-- The blanks before the parts of a container end where the first part starts. -/
theorem skip_join (ht : ∀ u, skip (t ++ u) = t ++ u) (ts : List Text) (after : Text) :
    skip (newline level ++ (Text.join (separator level) (t :: ts) ++ after))
      = Text.join (separator level) (t :: ts) ++ after := by
  obtain ⟨u, hu⟩ := Text.join_cons_eq (separator level) t ts
  rw [skip_newline, hu, List.append_assoc, ht]

/-- The first part of several, with what follows it. -/
theorem join_append (t t' : Text) (ts : List Text) (after : Text) :
    Text.join (separator level) (t :: t' :: ts) ++ after
      = t ++ Point.char ',' :: (newline level ++ (Text.join (separator level) (t' :: ts) ++ after)) := by
  rw [Text.join_cons_cons, List.append_assoc, List.append_assoc]
  rfl

/-- Fuel for several parts is fuel for the first one and for the others. -/
theorem fuel_join {t' : Text} {ts : List Text}
    (h : 2 * (Text.join (separator level) (t :: t' :: ts)).length ≤ fuel) :
    2 * t.length ≤ fuel ∧ 2 * (Text.join (separator level) (t' :: ts)).length + 1 ≤ fuel := by
  have hseparator : 1 ≤ (separator level).length := by simp [separator]
  rw [Text.join_cons_cons, List.length_append, List.length_append] at h
  omega

/-- The elements of a list are read from one on, up to the closing bracket. -/
theorem elements_reads (level : Nat) {texts : List Text} {items : List Value} (h : List.Forall₂ Reads texts items)
    (hclosing : Closing after) (hafter : skip after = Point.char ']' :: rest) :
    ∀ {fuel : Nat}, texts ≠ [] → 2 * (Text.join (separator level) texts).length + 1 ≤ fuel →
      elements digitLimit (fuel + 1) (Text.join (separator level) texts ++ after) = .ok (items, rest) := by
  induction h with
  | nil => exact fun hne => absurd rfl hne
  | @cons t v texts items hx hrest ih =>
    intro fuel _ hfuel
    -- the part is read with one step less
    obtain ⟨n, rfl⟩ : ∃ n, fuel = n + 1 := ⟨fuel - 1, by omega⟩
    have hfuel := Nat.le_of_succ_le_succ hfuel
    cases hrest with
    | nil =>
      rw [Text.join_singleton] at hfuel ⊢
      exact elements_last (hx.value hfuel hclosing) hafter
    | @cons t' v' texts items hx' hrest =>
      obtain ⟨hfirst, hothers⟩ := fuel_join hfuel
      have hitems := ih (List.cons_ne_nil _ _) hothers
      rw [← skip_join hx'.skip_append] at hitems
      rw [join_append]
      exact elements_more (hx.value hfirst (closing_cons (.inl rfl) _)) (skip_cons rfl _) hitems

/-- The entries of a record are read from one on, after others with other keys, up to the closing brace. -/
theorem members_reads (level : Nat) {texts : List Text} {entries : List (Text × Value)}
    (h : List.Forall₂ EntryReads entries texts) (hclosing : Closing after)
    (hafter : skip after = Point.char '}' :: rest) :
    ∀ (before : List (Text × Value)) {fuel : Nat}, ((before ++ entries).map Prod.fst).Nodup → texts ≠ [] →
      2 * (Text.join (separator level) texts).length + 1 ≤ fuel →
      members digitLimit (fuel + 1) (Text.join (separator level) texts ++ after) (Fields.named before)
        = .ok (Fields.named (before ++ entries), rest) := by
  induction h with
  | nil => exact fun _ _ _ hne => absurd rfl hne
  | @cons e text entries texts hx hrest ih =>
    intro before fuel hkeys _ hfuel
    obtain ⟨n, rfl⟩ : ∃ n, fuel = n + 1 := ⟨fuel - 1, by omega⟩
    have hfuel := Nat.le_of_succ_le_succ hfuel
    obtain ⟨-, t, ht, rfl⟩ := hx
    have hlength : t.length ≤ (entryText e.1 t).length := by
      rw [entryText, List.length_append]
      exact Nat.le_add_left _ _
    have hkey : e.1 ∉ before.map Prod.fst := by
      rw [List.map_append, List.nodup_append] at hkeys
      exact fun hmem => hkeys.2.2 _ hmem _ (by simp) rfl
    have hadd := addEntry_named hkey e.2
    cases hrest with
    | nil =>
      rw [Text.join_singleton] at hfuel ⊢
      have hvalue : value digitLimit (n + 1) (t ++ after) = .ok (e.2, after) := ht.value (by omega) hclosing
      have hread := members_last e.1 (Fields.named before) (ht.skip_append after) hvalue hafter
      rw [hadd] at hread
      rwa [entryText_append]
    | @cons e' text' entries texts hx' hrest =>
      obtain ⟨hfirst, hothers⟩ := fuel_join hfuel
      obtain ⟨-, t', ht', rfl⟩ := hx'
      have hvalue : ∀ more, value digitLimit (n + 1) (t ++ Point.char ',' :: more) = .ok (e.2, ',' :: more) :=
        fun more => ht.value (by omega) (closing_cons (.inl rfl) more)
      have hentries := ih (before ++ [e]) (by simpa using hkeys) (List.cons_ne_nil _ _) hothers
      rw [← skip_join (skip_entryText e'.1 t'), ← hadd] at hentries
      have hread := members_more e.1 (ht.skip_append _) (hvalue _) (skip_cons rfl _) hentries
      rw [join_append, entryText_append, hread, List.append_assoc]
      rfl

/-! ## Containers -/

section Containers

variable {opening closing : Point}

theorem bracketed_cons (level : Nat) (opening closing : Point) (t : Text) (ts : List Text) (rest : Text) :
    bracketed level opening closing (t :: ts) ++ rest = opening :: (newline (level + 1)
      ++ (Text.join (separator (level + 1)) (t :: ts) ++ (newline level ++ closing :: rest))) := by
  simp [bracketed, separator]

/-- Fuel for a container is fuel for its parts. -/
theorem fuel_bracketed {ts : List Text} (h : 2 * (bracketed level opening closing (t :: ts)).length ≤ fuel) :
    ∃ n, fuel = n + 1 ∧ 2 * (Text.join (separator (level + 1)) (t :: ts)).length + 1 ≤ n := by
  have hlength := congrArg List.length (bracketed_cons level opening closing t ts [])
  simp only [List.append_nil, List.length_cons, List.length_append, newline] at hlength
  exact ⟨fuel - 1, by omega, by omega⟩

@[simp] theorem kept_newline (level : Nat) : Text.Kept (newline level) := by
  refine Text.kept_cons.2 ⟨by decide, fun p hp => ?_⟩
  rw [(List.mem_replicate.1 hp).2]
  decide

theorem kept_join (level : Nat) {ts : List Text} (h : ∀ t ∈ ts, t.Kept) : (Text.join (separator level) ts).Kept := by
  induction ts with
  | nil => simp [Text.join]
  | cons t ts ih =>
    obtain ⟨ht, hts⟩ := List.forall_mem_cons.1 h
    cases ts with
    | nil => rwa [Text.join_singleton]
    | cons t' ts =>
      rw [Text.join_cons_cons, separator]
      have hrest := ih hts
      rw [separator] at hrest
      simp [ht, hrest]

theorem kept_bracketed {ts : List Text} (hbrackets : Text.Kept [opening, closing]) (h : ∀ t ∈ ts, t.Kept) :
    (bracketed level opening closing ts).Kept := by
  obtain ⟨hopening, hclosing⟩ := Text.kept_cons.1 hbrackets
  unfold bracketed
  split
  · exact hbrackets
  · have hjoin := kept_join (level + 1) h
    rw [separator] at hjoin
    simp [hopening, hclosing, hjoin]

theorem skip_closing (hclosing : isSpace closing = false) (rest : Text) :
    skip (newline level ++ closing :: rest) = closing :: rest := by
  rw [skip_newline, skip_cons hclosing]

theorem reads_list {texts : List Text} {items : List Value} (h : List.Forall₂ Reads texts items) :
    Reads (bracketed level '[' ']' texts) (.list items) where
  head := by
    unfold bracketed
    split <;> exact ⟨_, rfl, rfl, by decide⟩
  kept := by
    refine kept_bracketed (by decide) ?_
    exact ((List.forall₂_and_left _ _).1 (h.imp fun _ _ ht => ⟨ht.kept, ht⟩)).1
  value := by
    intro fuel rest hfuel _
    cases h with
    | nil => rfl
    | @cons t v texts items hx hrest =>
      obtain ⟨n, rfl, hparts⟩ := fuel_bracketed hfuel
      have hitems := elements_reads (level + 1) (.cons hx hrest) (closing_newline level _)
        (skip_closing rfl rest) (List.cons_ne_nil _ _) hparts
      obtain ⟨c, hhead, -, hc⟩ := hx.head
      rw [bracketed_cons]
      refine value_list (skip_join hx.skip_append _ _) ?_ hitems
      rw [head?_join hhead]
      simpa using hc

theorem kept_stringLiteral {t : Text} (h : t.Scalar) : (stringLiteral t).Kept := by
  have hescaped : Text.Kept (t.flatMap Value.escaped) := by
    intro p hp
    obtain ⟨c, hc, hp⟩ := List.mem_flatMap.1 hp
    exact kept_escaped (h c hc) p hp
  simp [stringLiteral, hescaped]

theorem EntryReads.kept {e : Text × Value} {text : Text} (h : EntryReads e text) : text.Kept := by
  obtain ⟨hkey, t, ht, rfl⟩ := h
  simp [entryText, kept_stringLiteral hkey, ht.kept, String.text]

theorem reads_record {texts : List Text} {entries : List (Text × Value)} (h : List.Forall₂ EntryReads entries texts)
    (hkeys : (entries.map Prod.fst).Nodup) :
    Reads (bracketed level '{' '}' texts) (.record (Fields.named entries)) where
  head := by
    unfold bracketed
    split <;> exact ⟨_, rfl, rfl, by decide⟩
  kept := by
    refine kept_bracketed (by decide) ?_
    exact ((List.forall₂_and_left _ _).1 (h.flip.imp fun _ _ ht => ⟨EntryReads.kept ht, ht⟩)).1
  value := by
    intro fuel rest hfuel _
    cases h with
    | nil => rfl
    | @cons e text entries texts hx hrest =>
      obtain ⟨n, rfl, hparts⟩ := fuel_bracketed hfuel
      have hentries := members_reads (level + 1) (.cons hx hrest) (closing_newline level _)
        (skip_closing rfl rest) [] hkeys (List.cons_ne_nil _ _) hparts
      obtain ⟨-, t, -, rfl⟩ := hx
      have hhead : (entryText e.1 t).head? = some (Point.char '"') := by rw [entryText_eq]; rfl
      rw [bracketed_cons]
      refine value_record (skip_join (skip_entryText e.1 t) _ _) ?_ hentries
      rw [head?_join hhead]
      decide

end Containers

/-! ## Portable values -/

theorem reads_null : Reads "null".text .null where
  head := ⟨_, rfl, rfl, by decide⟩
  kept := by decide
  value _ _ := value_null

theorem reads_bool (b : Bool) : Reads (if b then "true".text else "false".text) (.bool b) where
  head := by cases b <;> exact ⟨_, rfl, rfl, by decide⟩
  kept := by cases b <;> decide
  value _ _ := value_bool b

theorem reads_int {n : Int} (hn : (Text.ofNat n.natAbs).length ≤ digitLimit) : Reads (Text.ofInt n) (.int n) where
  head := by
    obtain ⟨d, ds, hds, hd⟩ := Text.ofNat_eq_cons n.natAbs
    have hne : ∀ c : Char, c.isDigit = false → d ≠ c := by
      rintro c hc rfl
      exact absurd hd (by simp [hc])
    unfold Text.ofInt
    split_ifs
    · exact ⟨_, rfl, rfl, by decide⟩
    · exact ⟨d, by rw [hds]; rfl, by simp [isSpace, hne], hne _ rfl⟩
  kept := by
    have hdigits : (Text.ofNat n.natAbs).Kept := by
      intro p hp
      obtain ⟨c, hc, rfl⟩ := List.mem_map.1 hp
      refine ⟨fun hreturn => ?_, rfl⟩
      rw [hreturn] at hp
      exact absurd (Text.isDigit_ofNat hp) (by decide)
    unfold Text.ofInt
    split_ifs <;> simp [hdigits]
  value _ hrest := value_int hn hrest

theorem reads_str {t : Text} (h : t.Scalar) : Reads (stringLiteral t) (.str t) where
  head := ⟨_, rfl, rfl, by decide⟩
  kept := kept_stringLiteral h
  value _ _ := value_string t

/-- A sequence of values whose structured texts are read back, with its own text. -/
theorem exists_reads_list {items : List Value}
    (h : ∀ x ∈ items, ∀ level, ∃ t, structuredAt? level x = some t ∧ Reads t x.asLists) (level : Nat) :
    ∃ t, (Value.structuredItems? (level + 1) items).map (bracketed level '[' ']') = some t ∧
      Reads t (.list (items.map Value.asLists)) := by
  obtain ⟨texts, htexts⟩ := exists_forall₂ fun x hx => h x hx (level + 1)
  have hitems : Value.structuredItems? (level + 1) items = some texts := by
    rw [Value.structuredItems?_eq]
    exact mapM_eq_some (htexts.imp fun _ _ ht => ht.1)
  have hreads : List.Forall₂ Reads texts (items.map Value.asLists) :=
    List.forall₂_map_right_iff.2 (htexts.imp fun _ _ ht => ht.2).flip
  exact ⟨_, by rw [hitems]; rfl, reads_list hreads⟩

/-- A record of values whose structured texts are read back, with its own text. -/
theorem exists_reads_record {entries : List (Text × Value)} (hkeys : (entries.map Prod.fst).Nodup)
    (hscalar : ∀ e ∈ entries, e.1.Scalar)
    (h : ∀ e ∈ entries, ∀ level, ∃ t, structuredAt? level e.2 = some t ∧ Reads t e.2.asLists) (level : Nat) :
    ∃ t, (Value.structuredEntries? (level + 1) (Fields.named entries)).map (bracketed level '{' '}') = some t ∧
      Reads t (.record (Fields.named (entries.map fun e => (e.1, e.2.asLists)))) := by
  have hentry : ∀ e ∈ entries, ∃ text, Value.structuredField? (level + 1) (.str e.1, e.2) = some text ∧
      EntryReads (e.1, e.2.asLists) text := by
    intro e he
    obtain ⟨t, ht, hreads⟩ := h e he (level + 1)
    exact ⟨entryText e.1 t, by rw [Value.structuredField?, ht]; rfl, hscalar e he, t, hreads, rfl⟩
  obtain ⟨texts, htexts⟩ := exists_forall₂ hentry
  have hentries : Value.structuredEntries? (level + 1) (Fields.named entries) = some texts := by
    rw [Value.structuredEntries?_eq, Fields.named]
    exact mapM_eq_some (List.forall₂_map_left_iff.2 (htexts.imp fun _ _ ht => ht.1))
  have hreads : List.Forall₂ EntryReads (entries.map fun e => (e.1, e.2.asLists)) texts :=
    List.forall₂_map_left_iff.2 (htexts.imp fun _ _ ht => ht.2)
  refine ⟨_, by rw [hentries]; rfl, reads_record hreads ?_⟩
  rw [List.map_map]
  exact hkeys

/-- **The structured text of a portable value is read back.** -/
theorem reads_of_portable (h : v.Portable) : ∀ level, ∃ t, structuredAt? level v = some t ∧ Reads t v.asLists := by
  induction h with
  | null => exact fun _ => ⟨_, rfl, reads_null⟩
  | bool b => exact fun _ => ⟨_, rfl, reads_bool b⟩
  | int hn => exact fun _ => ⟨_, by rw [structuredAt?, Value.digits?, if_pos hn]; rfl, reads_int hn⟩
  | str ht => exact fun _ => ⟨_, rfl, reads_str ht⟩
  | list _ ih =>
    intro level
    rw [structuredAt?, Value.asLists, Value.allAsLists_eq]
    exact exists_reads_list ih level
  | tuple _ ih =>
    intro level
    rw [structuredAt?, Value.asLists, Value.allAsLists_eq]
    exact exists_reads_list ih level
  | record hkeys hscalar _ ih =>
    intro level
    rw [structuredAt?, Value.asLists, Value.fieldsAsLists_named]
    exact exists_reads_record hkeys hscalar ih level

/-- A text that is read back is a document of the value. -/
theorem Reads.read (h : Reads t v) : read digitLimit t = .ok v := by
  have hread : Json.value digitLimit (2 * t.length + 2) (t ++ []) = .ok (v, []) := h.value (by omega) closing_nil
  have hskip := h.skip_append []
  rw [List.append_nil] at hread hskip
  rw [Json.read, hskip, hread]
  rfl

end Json

end Stencil
