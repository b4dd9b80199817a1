import Stencil.Markup.Tree
import Stencil.Proofs.Text.Pieces

/-!
# Tags and placeholders are read as they are written

* A name is read back before a character that no name goes on with (`readName?_append`).
* An opening tag is read back by its own kind (`openTagOf?_openText`) and by no other (`openTagOf?_of_ne`), a
  placeholder by the reader of placeholders (`placeholder?_placeText`), whatever follows them.
* All readers of tags, placeholders and closed tags are braced.
-/

namespace Stencil

open Text (Braced BraceFree)

/-! ## Names -/

/-- The characters that a name starts with, by their numbers. -/
theorem isNameStart_iff {c : Point} :
    isNameStart c = true ↔ ((65 ≤ c.toNat ∧ c.toNat ≤ 90) ∨ (97 ≤ c.toNat ∧ c.toNat ≤ 122)) ∨ c = '_' := by
  simp [isNameStart, Point.isAlpha_iff]

theorem isNameChar_of_isNameStart {c : Point} (h : isNameStart c = true) : isNameChar c = true := by
  rcases isNameStart_iff.1 h with hc | rfl
  · have hlt : c.toNat < 128 := by omega
    simp [isNameChar, Text.isAlphanumeric, hlt, Point.isAlphanum, Point.isAlpha_iff.2 hc]
  · decide

/-- A name is a run of name characters that starts like one, with or without an at sign. -/
theorem IsName.shape {n : Text} (h : IsName n) :
    ∃ c cs, (n = c :: cs ∨ n = Point.char '@' :: c :: cs) ∧ isNameStart c = true ∧
    ∀ x ∈ cs, isNameChar x = true := by
  have plain : ∀ {t : Text}, readPlainName? t = some (t, []) →
      ∃ c cs, t = c :: cs ∧ isNameStart c = true ∧ ∀ x ∈ cs, isNameChar x = true := by
    intro t ht
    cases t with
    | nil => cases ht
    | cons c cs =>
      simp only [readPlainName?] at ht
      split at ht
      · rename_i hc
        simp only [Option.some.injEq, Prod.mk.injEq, List.cons.injEq, true_and] at ht
        refine ⟨c, cs, rfl, hc, fun x hx => ?_⟩
        rw [← ht.1] at hx
        exact (List.all_eq_true.1 (List.all_takeWhile (p := isNameChar) (l := cs))) x hx
      · cases ht
  unfold IsName readName? at h
  split at h
  · rename_i cs
    obtain ⟨⟨name, rest⟩, hr, he⟩ := Option.map_eq_some_iff.1 h
    simp only [Prod.mk.injEq, List.cons.injEq, true_and] at he
    obtain ⟨rfl, rfl⟩ := he
    obtain ⟨c, cs', rfl, hc, hcs⟩ := plain hr
    exact ⟨c, cs', Or.inr rfl, hc, hcs⟩
  · obtain ⟨c, cs', rfl, hc, hcs⟩ := plain h
    exact ⟨c, cs', Or.inl rfl, hc, hcs⟩

/-- The characters of a name go on with names, the at sign apart. -/
theorem IsName.mem {n : Text} (h : IsName n) {x : Point} (hx : x ∈ n) : isNameChar x = true ∨ x = '@' := by
  obtain ⟨c, cs, hn, hc, hcs⟩ := h.shape
  have hstart := isNameChar_of_isNameStart hc
  rcases hn with rfl | rfl
  · rcases List.mem_cons.1 hx with rfl | hx
    · exact Or.inl hstart
    · exact Or.inl (hcs x hx)
  · rcases List.mem_cons.1 hx with rfl | hx
    · exact Or.inr rfl
    · rcases List.mem_cons.1 hx with rfl | hx
      · exact Or.inl hstart
      · exact Or.inl (hcs x hx)

theorem IsName.not_mem {n : Text} (h : IsName n) {x : Point} (hc : isNameChar x = false) (ha : x ≠ '@') : x ∉ n := by
  intro hx
  rcases h.mem hx with h' | h'
  · rw [hc] at h'; cases h'
  · exact ha h'

/-- A name is read back before a character that no name goes on with. -/
theorem readName?_append {n : Text} (h : IsName n) {x : Point} (hx : isNameChar x = false) (s : Text) :
    readName? (n ++ x :: s) = some (n, x :: s) := by
  obtain ⟨c, cs, hn, hc, hcs⟩ := h.shape
  have hplain : readPlainName? (c :: cs ++ x :: s) = some (c :: cs, x :: s) := by
    simp [readPlainName?, hc, List.takeWhile_append_of_pos hcs, List.dropWhile_append_of_pos hcs, hx]
  rcases hn with rfl | rfl
  · have hat : c ≠ '@' := by
      rintro rfl
      revert hc
      decide
    unfold readName?
    split
    · rename_i heq
      exact absurd (List.cons.inj heq).1 hat
    · exact hplain
  · show (readPlainName? (c :: cs ++ x :: s)).map _ = _
    rw [hplain]
    rfl

/-- The first character of a name is neither blank nor one of a tag's own signs. -/
theorem IsName.head {n : Text} (h : IsName n) : ∃ c cs, n = c :: cs ∧ (isNameStart c = true ∨ c = '@') := by
  obtain ⟨c, cs, hn, hc, -⟩ := h.shape
  rcases hn with rfl | rfl
  · exact ⟨c, cs, rfl, Or.inl hc⟩
  · exact ⟨'@', c :: cs, rfl, Or.inr rfl⟩

theorem isBlank_of_isNameStart {c : Point} (h : isNameStart c = true) : Text.isBlank c = false := by
  rcases isNameStart_iff.1 h with hc | rfl
  · simp only [Text.isBlank, Text.inRanges, Text.blankRanges, List.any_cons, List.any_nil, Bool.or_false,
      Bool.or_eq_false_iff, Bool.and_eq_false_iff, decide_eq_false_iff_not]
    omega
  · decide

theorem IsName.dropBlanks {n : Text} (h : IsName n) (s : Text) : (n ++ s).dropWhile Text.isBlank = n ++ s := by
  obtain ⟨c, cs, rfl, hc⟩ := h.head
  have : Text.isBlank c = false := by
    rcases hc with hc | rfl
    · exact isBlank_of_isNameStart hc
    · decide
  simp [this]

theorem IsName.dropSpaces {n : Text} (h : IsName n) (s : Text) : (n ++ s).dropWhile (· = Point.char ' ') = n ++ s := by
  obtain ⟨c, cs, rfl, hc⟩ := h.head
  have : c ≠ ' ' := by
    rintro rfl
    revert hc
    decide
  simp [this]

theorem IsName.braceFree {n : Text} (h : IsName n) : BraceFree n := by
  rintro c hc rfl
  exact h.not_mem (by decide) (by decide) hc

/-! ## Readers are braced -/

/-- A marker of two braces and more is found only where they stand. -/
theorem after?_eq_none {marker t : Text} (h : ∀ cs, t ≠ Point.char '{' :: '{' :: cs) :
    Text.after? ('{' :: '{' :: marker) t = none := by
  have hp : (Point.char '{' :: '{' :: marker).isPrefixOf t = false := by
    rw [Bool.eq_false_iff]
    intro hp
    obtain ⟨s, rfl⟩ := List.isPrefixOf_iff_prefix.1 hp
    exact h _ rfl
  simp [Text.after?, hp]

theorem openTagOf?_eq_none (kind : TagKind) {t : Text} (h : ∀ cs, t ≠ Point.char '{' :: '{' :: cs) :
    openTagOf? kind t = none := by
  simp [openTagOf?, after?_eq_none h]

theorem braced_placeholder? : Braced placeholder? := by
  intro t h
  simp [placeholder?, after?_eq_none h]

theorem braced_loop? : Braced loop? := by
  intro t h
  simp [loop?, openTagOf?_eq_none _ h]

theorem braced_conditional? : Braced conditional? := by
  intro t h
  simp [conditional?, openTagOf?_eq_none _ h]

/-! ## Written tags -/

namespace Markup

/-- An opening tag of a kind, up to the name. -/
def openHead (kind : TagKind) : Text := '{' :: '{' :: '#' :: (kind.word ++ [Point.char ' '])

theorem openText_eq (kind : TagKind) (n : Text) : openText kind n = openHead kind ++ n ++ [Point.char '}', '}'] := by
  simp [openText, openHead]

theorem openText_ne_nil (kind : TagKind) (n : Text) : openText kind n ≠ [] := by simp [openText]

/-- An opening tag is read back by its own kind. -/
theorem openTagOf?_openText (kind : TagKind) {n : Text} (h : IsName n) (s : Text) :
    openTagOf? kind (openText kind n ++ s) = some ⟨kind, n, (openText kind n).length⟩ := by
  have hafter : Text.after? ('{' :: '{' :: '#' :: kind.word) (openText kind n ++ s)
      = some (Point.char ' ' :: (n ++ Point.char '}' :: '}' :: s)) := by
    have := Text.after?_append ('{' :: '{' :: '#' :: kind.word) (' ' :: (n ++ Point.char '}' :: '}' :: s))
    simpa [openText] using this
  have hname : tagName? (' ' :: (n ++ Point.char '}' :: '}' :: s)) = some (n, s) := by
    have hclose : Text.after? ['}', '}'] ((Point.char '}' :: '}' :: s).dropWhile (· = ' ')) = some s :=
      Text.after?_append ['}', '}'] s
    simp only [tagName?, Option.bind_eq_bind, h.dropSpaces, readName?_append h (x := '}') (by decide),
      Option.bind_some, hclose]
    rfl
  simp [openTagOf?, hafter, hname]

/-- An opening tag is not read by the other kind. -/
theorem openTagOf?_of_ne {kind kind' : TagKind} (h : kind ≠ kind') (n s : Text) :
    openTagOf? kind (openText kind' n ++ s) = none := by
  cases kind <;> cases kind' <;> first
    | exact absurd rfl h
    | simp [openTagOf?, openText, TagKind.word, Text.after?]

/-- Two braces are followed by a number sign in a tag. -/
theorem openTagOf?_of_third (kind : TagKind) {c : Point} (h : c ≠ '#') (s : Text) :
    openTagOf? kind ('{' :: '{' :: c :: s) = none := by
  have : ¬ ('#' = c) := fun e => h e.symm
  simp [openTagOf?, Text.after?, this]

/-- A placeholder is read back. -/
theorem placeholder?_placeText {n : Text} (h : IsName n) (s : Text) :
    placeholder? (placeText n ++ s) = some (⟨n, placeText n⟩, (placeText n).length) := by
  have hafter : Text.after? ['{', '{'] (placeText n ++ s) = some (n ++ Point.char '}' :: '}' :: s) := by
    have := Text.after?_append ['{', '{'] (n ++ Point.char '}' :: '}' :: s)
    simpa [placeText] using this
  have hclose : Text.after? ['}', '}'] ((Point.char '}' :: '}' :: s).dropWhile Text.isBlank) = some s := by
    have : Text.isBlank '}' = false := by decide
    simpa [this] using Text.after?_append ['}', '}'] s
  have hwidth : (placeText n ++ s).length - s.length = (placeText n).length := by simp
  simp only [placeholder?, hafter, Option.bind_eq_bind, Option.bind_some, h.dropBlanks,
    readName?_append h (x := '}') (by decide), hclose, hwidth, Option.pure_def]
  simp

/-- Two braces are followed by a name in a placeholder. -/
theorem placeholder?_of_third {c : Point} (hc : isNameStart c = false) (ha : c ≠ '@') (hb : Text.isBlank c = false)
    (s : Text) : placeholder? ('{' :: '{' :: c :: s) = none := by
  have hafter : Text.after? ['{', '{'] ('{' :: '{' :: c :: s) = some (c :: s) := Text.after?_append ['{', '{'] _
  have hname : readName? (c :: s) = none := by
    unfold readName?
    split
    · rename_i heq
      exact absurd (List.cons.inj heq).1 ha
    · simp [readPlainName?, hc]
  simp [placeholder?, hafter, hb, hname]

end Markup

end Stencil
