import Stencil.Proofs.Markup.Reading
import Stencil.Proofs.Text.Blanks
import Stencil.Proofs.Text.Local

/-!
# What tags and placeholders are written as

* A name is read as far as it goes (`readName?_eq_some_iff`), and between blanks or spaces where a class of characters
  apart from those of names stands around it (`readInside?_eq_some_iff`).
* **Placeholders** (`Placeholder.Written`) and **opening tags** (`TagKind.Writes`) are what the grammar says: the reader
  takes a text exactly if it starts with one (`placeholder?_eq_some_iff`, `openTagOf?_eq_some_iff`).
-/

namespace Stencil

open Text (BraceFree after? isBlank)

/-! ## Names -/

/-- The characters of ranges, one by one. -/
theorem Text.mem_of_inRanges {ranges : List (Nat × Nat)} {c : Point} (h : Text.inRanges ranges c = true) :
    c ∈ (ranges.flatMap fun (first, last) => List.range' first (last + 1 - first)).map Point.ofNat := by
  obtain ⟨⟨first, last⟩, hrange, hc⟩ := List.any_eq_true.1 h
  simp only [Bool.and_eq_true, decide_eq_true_eq] at hc
  refine List.mem_map.2 ⟨c.toNat, List.mem_flatMap.2 ⟨_, hrange, ?_⟩, Point.ofNat_toNat c⟩
  exact List.mem_range'_1.2 ⟨hc.1, by omega⟩

/-- A blank does not belong to a name. -/
theorem isNameChar_of_isBlank {c : Point} (h : isBlank c = true) : isNameChar c = false := by
  have hall : ((Text.blankRanges.flatMap fun (first, last) => List.range' first (last + 1 - first)).map
      Point.ofNat).all (fun x => !isNameChar x) = true := by decide +kernel
  have hc : (!isNameChar c) = true := List.all_eq_true.1 hall c (Text.mem_of_inRanges h)
  rwa [Bool.not_eq_true'] at hc

/-- A run of characters of a class ends before a text that starts with none of them. -/
theorem span_append {p : Point → Bool} {u s : Text} (hu : ∀ c ∈ u, p c = true) (hs : ∀ c ∈ s.head?, p c = false) :
    (u ++ s).takeWhile p = u ∧ (u ++ s).dropWhile p = s := by
  rw [List.takeWhile_append_of_pos hu, List.dropWhile_append_of_pos hu]
  cases s with
  | nil => simp
  | cons c cs => simp [hs c rfl]

theorem readPlainName?_eq_some_iff {t n rest : Text} : readPlainName? t = some (n, rest) ↔
    ∃ c cs, n = c :: cs ∧ isNameStart c = true ∧ (∀ x ∈ cs, isNameChar x = true) ∧ t = n ++ rest ∧
      ∀ x ∈ rest.head?, isNameChar x = false := by
  cases t with
  | nil =>
    refine ⟨nofun, ?_⟩
    rintro ⟨c, cs, rfl, -, -, h, -⟩
    cases h
  | cons c cs =>
    rw [readPlainName?]
    constructor
    · intro h
      split at h
      · rename_i hc
        cases h
        refine ⟨c, _, rfl, hc, fun x hx => ?_, ?_, Text.head?_dropWhile cs⟩
        · exact List.all_eq_true.1 List.all_takeWhile x hx
        · rw [List.cons_append, List.takeWhile_append_dropWhile]
      · cases h
    · rintro ⟨d, ds, rfl, hd, hds, h, hrest⟩
      rw [List.cons_append] at h
      obtain ⟨rfl, rfl⟩ := List.cons.inj h
      obtain ⟨htake, hdrop⟩ := span_append hds hrest
      rw [if_pos hd, htake, hdrop]

theorem readName?_at (t : Text) : readName? ('@' :: t) = (readPlainName? t).map fun (n, rest) => ('@' :: n, rest) := rfl

theorem readName?_of_ne {c : Point} (hc : c ≠ '@') (t : Text) : readName? (c :: t) = readPlainName? (c :: t) := by
  unfold readName?
  split
  · rename_i h
    exact absurd (List.cons.inj h).1 hc
  · rfl

theorem ne_at_of_isNameStart {c : Point} (h : isNameStart c = true) : c ≠ '@' := by
  rintro rfl
  revert h
  decide

/-- A name that starts with a letter. -/
theorem isName_plain {c : Point} {cs : Text} (hc : isNameStart c = true) (hcs : ∀ x ∈ cs, isNameChar x = true) :
    IsName (c :: cs) := by
  rw [IsName, readName?_of_ne (ne_at_of_isNameStart hc)]
  exact readPlainName?_eq_some_iff.2 ⟨c, cs, rfl, hc, hcs, by simp, by simp⟩

theorem isName_at {c : Point} {cs : Text} (hc : isNameStart c = true) (hcs : ∀ x ∈ cs, isNameChar x = true) :
    IsName ('@' :: c :: cs) := by
  have hplain : readPlainName? (c :: cs) = some (c :: cs, []) :=
    readPlainName?_eq_some_iff.2 ⟨c, cs, rfl, hc, hcs, by simp, by simp⟩
  rw [IsName, readName?_at, hplain]
  rfl

/-- **A name is read as far as it goes.** -/
theorem readName?_eq_some_iff {t n rest : Text} : readName? t = some (n, rest) ↔
    IsName n ∧ t = n ++ rest ∧ ∀ x ∈ rest.head?, isNameChar x = false := by
  constructor
  · intro h
    unfold readName? at h
    split at h
    · obtain ⟨⟨m, rest'⟩, hread, heq⟩ := Option.map_eq_some_iff.1 h
      cases heq
      obtain ⟨c, cs, rfl, hc, hcs, rfl, hrest⟩ := readPlainName?_eq_some_iff.1 hread
      exact ⟨isName_at hc hcs, rfl, hrest⟩
    · obtain ⟨c, cs, rfl, hc, hcs, rfl, hrest⟩ := readPlainName?_eq_some_iff.1 h
      exact ⟨isName_plain hc hcs, rfl, hrest⟩
  · rintro ⟨hn, rfl, hrest⟩
    obtain ⟨c, cs, rfl | rfl, hc, hcs⟩ := hn.shape
    · rw [List.cons_append, readName?_of_ne (ne_at_of_isNameStart hc)]
      exact readPlainName?_eq_some_iff.2 ⟨c, cs, rfl, hc, hcs, rfl, hrest⟩
    · have hread : readPlainName? (c :: cs ++ rest) = some (c :: cs, rest) :=
        readPlainName?_eq_some_iff.2 ⟨c, cs, rfl, hc, hcs, rfl, hrest⟩
      rw [List.cons_append, readName?_at, hread]
      rfl

/-! ## Between double braces -/

/-- A class of characters that may stand around a name. -/
structure SetsOff (p : Point → Bool) : Prop where
  name {c : Point} : p c = true → isNameChar c = false
  at_sign : p '@' = false
  opening : p '{' = false
  closing : p '}' = false

theorem setsOff_isBlank : SetsOff isBlank := ⟨isNameChar_of_isBlank, by decide, by decide, by decide⟩

theorem setsOff_space : SetsOff (· = ' ') where
  name h := by
    rw [of_decide_eq_true h]
    decide
  at_sign := by decide
  opening := by decide
  closing := by decide

/-- A name with characters of a class around it and two closing braces at the end. -/
def Closes (p : Point → Bool) (name u : Text) : Prop :=
  IsName name ∧ ∃ before after, (∀ c ∈ before, p c = true) ∧ (∀ c ∈ after, p c = true) ∧
    u = before ++ (name ++ (after ++ [Point.char '}', '}']))

/-- Reads a name with characters of a class around it up to two closing braces. -/
def readInside? (p : Point → Bool) (t : Text) : Option (Text × Text) := do
  let (name, rest) ← readName? (t.dropWhile p)
  let rest ← after? ['}', '}'] (rest.dropWhile p)
  return (name, rest)

variable {p : Point → Bool}

theorem IsName.head?_append (hp : SetsOff p) {n : Text} (hn : IsName n) (s : Text) :
    ∀ c ∈ (n ++ s).head?, p c = false := by
  obtain ⟨c, cs, rfl, hc⟩ := hn.head
  intro x hx
  cases hx
  rcases hc with hc | rfl
  · rw [Bool.eq_false_iff]
    intro h
    have := hp.name h
    rw [isNameChar_of_isNameStart hc] at this
    cases this
  · exact hp.at_sign

theorem Closes.braceFree (hp : SetsOff p) {name u : Text} (h : Closes p name u) : BraceFree u := by
  obtain ⟨hn, before, after, hbefore, hafter, rfl⟩ := h
  have hclass : ∀ {v : Text}, (∀ c ∈ v, p c = true) → BraceFree v := by
    rintro v hv c hc rfl
    have hopening := hp.opening
    rw [hv _ hc] at hopening
    cases hopening
  intro c hc
  rcases List.mem_append.1 hc with hc | hc
  · exact hclass hbefore c hc
  rcases List.mem_append.1 hc with hc | hc
  · exact hn.braceFree c hc
  rcases List.mem_append.1 hc with hc | hc
  · exact hclass hafter c hc
  · rintro rfl
    revert hc
    decide

/-- **A name between double braces** is read exactly where one is written. -/
theorem readInside?_eq_some_iff (hp : SetsOff p) {t name rest : Text} :
    readInside? p t = some (name, rest) ↔ ∃ u, Closes p name u ∧ t = u ++ rest := by
  simp only [readInside?, Option.bind_eq_bind, Option.bind_eq_some_iff, Option.pure_def, Option.some.injEq,
    Prod.exists, Prod.mk.injEq]
  constructor
  · rintro ⟨n, after, hread, rest', hclose, rfl, rfl⟩
    obtain ⟨hn, ht, -⟩ := readName?_eq_some_iff.1 hread
    have hend := Text.after?_eq_some hclose
    refine ⟨t.takeWhile p ++ (n ++ (after.takeWhile p ++ [Point.char '}', '}'])), ⟨hn, _, _, ?_, ?_, rfl⟩, ?_⟩
    · exact List.all_eq_true.1 List.all_takeWhile
    · exact List.all_eq_true.1 List.all_takeWhile
    · calc t = t.takeWhile p ++ t.dropWhile p := List.takeWhile_append_dropWhile.symm
        _ = t.takeWhile p ++ (n ++ (after.takeWhile p ++ after.dropWhile p)) := by
          rw [ht, List.takeWhile_append_dropWhile]
        _ = _ := by simp [hend]
  · rintro ⟨u, ⟨hn, before, after, hbefore, hafter, rfl⟩, rfl⟩
    have hstart : (before ++ (name ++ (after ++ [Point.char '}', '}'])) ++ rest).dropWhile p
        = name ++ (after ++ Point.char '}' :: '}' :: rest) := by
      have := (span_append hbefore (hn.head?_append hp (after ++ Point.char '}' :: '}' :: rest))).2
      simpa using this
    have hbrace : ∀ c ∈ (Point.char '}' :: '}' :: rest).head?, p c = false := by
      rintro c ⟨⟩
      exact hp.closing
    have hend : (after ++ Point.char '}' :: '}' :: rest).dropWhile p = Point.char '}' :: '}' :: rest :=
      (span_append hafter hbrace).2
    have hstop : ∀ c ∈ (after ++ Point.char '}' :: '}' :: rest).head?, isNameChar c = false := by
      cases after with
      | nil =>
        rintro c ⟨⟩
        decide
      | cons d ds =>
        rintro c ⟨⟩
        exact hp.name (hafter _ (by simp))
    have hread := readName?_eq_some_iff.2 ⟨hn, rfl, hstop⟩
    have hclose : after? ['}', '}'] ((after ++ Point.char '}' :: '}' :: rest).dropWhile p) = some rest := by
      rw [hend]
      exact Text.after?_append ['}', '}'] rest
    exact ⟨name, _, hstart ▸ hread, rest, hclose, rfl, rfl⟩

/-! ## Placeholders -/

/-- A placeholder as the grammar has it: two braces, blanks, a name, blanks, and two braces. -/
def Placeholder.Written (p : Placeholder) : Prop := ∃ u, Closes isBlank p.name u ∧ p.source = Point.char '{' :: '{' :: u

/-- Two opening braces, no more of them, and a closing one at the end. -/
theorem Placeholder.Written.shape {p : Placeholder} (h : p.Written) :
    ∃ u, p.source = Point.char '{' :: '{' :: (u ++ [Point.char '}']) ∧ BraceFree (u ++ [Point.char '}']) := by
  obtain ⟨u, hu, hsource⟩ := h
  have hfree := hu.braceFree setsOff_isBlank
  obtain ⟨-, before, after, -, -, rfl⟩ := hu
  have hlast : before ++ (p.name ++ (after ++ [Point.char '}', '}']))
      = before ++ (p.name ++ (after ++ [Point.char '}'])) ++ [Point.char '}'] := by simp
  rw [hlast] at hsource hfree
  exact ⟨_, hsource, hfree⟩

/-- **Placeholders are read where they are written**: a text starts with a placeholder exactly if one is read off it. -/
theorem placeholder?_eq_some_iff {t : Text} {p : Placeholder} {width : Nat} :
    placeholder? t = some (p, width) ↔ p.Written ∧ width = p.source.length ∧ ∃ rest, t = p.source ++ rest := by
  have hdef : placeholder? t = (after? ['{', '{'] t).bind fun inside => (readInside? isBlank inside).bind
      fun (name, rest) => some (⟨name, t.take (t.length - rest.length)⟩, t.length - rest.length) := by
    simp only [placeholder?, readInside?, Option.bind_eq_bind, Option.bind_assoc, Option.pure_def]
    rfl
  simp only [hdef, Option.bind_eq_some_iff, Prod.exists, Option.some.injEq, Prod.mk.injEq]
  constructor
  · rintro ⟨inside, hopen, name, rest, hread, rfl, rfl⟩
    obtain ⟨u, hu, rfl⟩ := (readInside?_eq_some_iff setsOff_isBlank).1 hread
    obtain rfl := Text.after?_eq_some hopen
    have hwidth : ([Point.char '{', '{'] ++ (u ++ rest)).length - rest.length
        = (Point.char '{' :: '{' :: u).length := by
      simp
      omega
    have hsource : ([Point.char '{', '{'] ++ (u ++ rest)).take (Point.char '{' :: '{' :: u).length
        = Point.char '{' :: '{' :: u := by simp
    rw [hwidth, hsource]
    exact ⟨⟨u, hu, rfl⟩, rfl, rest, rfl⟩
  · rintro ⟨⟨u, hu, hsource⟩, rfl, rest, rfl⟩
    have hopen : after? ['{', '{'] (p.source ++ rest) = some (u ++ rest) := by
      rw [hsource]
      exact Text.after?_append ['{', '{'] (u ++ rest)
    have hread : readInside? isBlank (u ++ rest) = some (p.name, rest) :=
      (readInside?_eq_some_iff setsOff_isBlank).2 ⟨u, hu, rfl⟩
    refine ⟨u ++ rest, hopen, p.name, rest, hread, ?_, ?_⟩
    · simp
    · simp

/-- A placeholder is read whatever follows it, and ends with a brace. -/
theorem ended_placeholder? : Text.Ended placeholder? '}' := by
  refine ⟨⟨fun h => ?_, fun h s => ?_⟩, fun h => ?_⟩
  · obtain ⟨-, rfl, rest, rfl⟩ := placeholder?_eq_some_iff.1 h
    simp
  · obtain ⟨hp, rfl, rest, rfl⟩ := placeholder?_eq_some_iff.1 h
    refine placeholder?_eq_some_iff.2 ⟨hp, rfl, s, ?_⟩
    rw [List.take_left]
  · obtain ⟨hp, rfl, rest, rfl⟩ := placeholder?_eq_some_iff.1 h
    obtain ⟨u, hsource, -⟩ := hp.shape
    rw [hsource]
    refine ⟨Nat.succ_pos _, ?_⟩
    simp

/-! ## Opening tags -/

/-- The written form of an opening tag of a kind: spaces may stand around the name. -/
def TagKind.Writes (kind : TagKind) (name u : Text) : Prop :=
  ∃ inside, Closes (· = ' ') name inside ∧ u = Point.char '{' :: '{' :: '#' :: (kind.word ++ Point.char ' ' :: inside)

/-- **Opening tags are read where they are written.** -/
theorem openTagOf?_eq_some_iff {kind : TagKind} {t : Text} {tag : OpenTag} : openTagOf? kind t = some tag ↔
    ∃ u, kind.Writes tag.name u ∧ tag = ⟨kind, tag.name, u.length⟩ ∧ ∃ rest, t = u ++ rest := by
  have hname : ∀ (s : Text) {n rest : Text}, tagName? s = some (n, rest) ↔
      ∃ s', s = Point.char ' ' :: s' ∧ readInside? (· = ' ') s' = some (n, rest) := by
    intro s n rest
    unfold tagName?
    split
    · rename_i cs
      refine ⟨fun h => ⟨cs, rfl, h⟩, ?_⟩
      rintro ⟨s', hs, h⟩
      rw [(List.cons.inj hs).2]
      exact h
    · rename_i hother
      refine ⟨nofun, ?_⟩
      rintro ⟨s', rfl, -⟩
      exact absurd rfl (hother s')
  simp only [openTagOf?, Option.bind_eq_bind, Option.bind_eq_some_iff, Prod.exists, Option.pure_def, Option.some.injEq]
  constructor
  · rintro ⟨after, hopen, n, rest, hread, rfl⟩
    obtain ⟨s, rfl, hinside⟩ := (hname after).1 hread
    obtain ⟨u, hu, rfl⟩ := (readInside?_eq_some_iff setsOff_space).1 hinside
    obtain rfl := Text.after?_eq_some hopen
    refine ⟨'{' :: '{' :: '#' :: (kind.word ++ Point.char ' ' :: u), ⟨u, hu, rfl⟩, ?_, rest, by simp⟩
    simp
    omega
  · rintro ⟨u, ⟨inside, hinside, rfl⟩, htag, rest, rfl⟩
    have hopen : after? ('{' :: '{' :: '#' :: kind.word)
        (Point.char '{' :: '{' :: '#' :: (kind.word ++ Point.char ' ' :: inside) ++ rest)
          = some (Point.char ' ' :: (inside ++ rest)) := by
      have := Text.after?_append ('{' :: '{' :: '#' :: kind.word) (' ' :: (inside ++ rest))
      simpa using this
    have hread : readInside? (· = ' ') (inside ++ rest) = some (tag.name, rest) :=
      (readInside?_eq_some_iff setsOff_space).2 ⟨inside, hinside, rfl⟩
    refine ⟨_, hopen, tag.name, rest, (hname _).2 ⟨_, rfl, hread⟩, ?_⟩
    rw [htag]
    simp
    omega

end Stencil
