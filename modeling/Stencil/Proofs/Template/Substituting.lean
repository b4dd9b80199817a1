import Stencil.Proofs.Directive.Meaning
import Stencil.Proofs.Markup.Written
import Stencil.Proofs.Results
import Stencil.Substitution

/-!
# Filling the placeholders of a text

* **Places** (`Placeholder.At`): where a text has a placeholder in it, whatever stands around it. Two placeholders of a
  text never overlap (`Placeholder.At.apart`): only the first two characters of one are opening braces.
* The scan of a text finds the placeholders at all of these places, and nothing else (`divides_pieces`).
* So substitution replaces each of them, by what its name stands for (`Placeholder.ShownAs`), and keeps the characters
  between them. It goes through every split of a text that cuts no placeholder (`substitute_append_of_uncut`).
-/

namespace Stencil

open Text (BraceFree pieces pieces_induction)

namespace Placeholder

variable {p q : Placeholder} {t : Text} {i j : Nat}

/-! ## Places -/

/-- The placeholder is written in a text, after so many characters. -/
structure At (p : Placeholder) (t : Text) (pos : Nat) : Prop where
  written : p.Written
  here : ∃ rest, t.drop pos = p.source ++ rest

/-- A placeholder is read at its places and nowhere else. -/
theorem at_iff : p.At t i ↔ placeholder? (t.drop i) = some (p, p.source.length) := by
  rw [placeholder?_eq_some_iff]
  exact ⟨fun h => ⟨h.written, rfl, h.here⟩, fun ⟨hp, _, hrest⟩ => ⟨hp, hrest⟩⟩

theorem at_drop (n : Nat) : p.At (t.drop n) i ↔ p.At t (n + i) := by
  rw [at_iff, at_iff, List.drop_drop]

theorem At.append_right (h : p.At t i) (a : Text) : p.At (a ++ t) (a.length + i) := by
  rwa [← at_drop, List.drop_left]

theorem At.getElem? (h : p.At t i) {k : Nat} (hk : k < p.source.length) : t[i + k]? = p.source[k]? := by
  obtain ⟨rest, hrest⟩ := h.here
  rw [← List.getElem?_drop, hrest, List.getElem?_append_left hk]

/-- The text has two opening braces at the place of a placeholder, and no further ones in it. -/
theorem At.braces (h : p.At t i) :
    t[i]? = some (Point.char '{') ∧ t[i + 1]? = some (Point.char '{') ∧ i + 2 < i + p.source.length ∧
    ∀ k, i + 2 ≤ k → k < i + p.source.length → t[k]? ≠ some (Point.char '{') := by
  obtain ⟨u, hsource, hfree⟩ := h.written.shape
  have hlength : p.source.length = u.length + 3 := by simp [hsource]
  refine ⟨?_, ?_, by omega, fun k hk hlt heq => ?_⟩
  · rw [← Nat.add_zero i, h.getElem? (by omega), hsource]
    rfl
  · rw [h.getElem? (by omega), hsource]
    rfl
  · obtain ⟨m, rfl⟩ := Nat.exists_eq_add_of_le hk
    rw [Nat.add_assoc, h.getElem? (by omega), hsource, Nat.add_comm 2 m] at heq
    exact hfree '{' (List.mem_of_getElem? heq) rfl

theorem At.append_left (h : p.At t i) (b : Text) : p.At (t ++ b) i := by
  obtain ⟨hlt, -⟩ := List.getElem?_eq_some_iff.1 h.braces.1
  obtain ⟨rest, hrest⟩ := h.here
  exact ⟨h.written, rest ++ b, by rw [List.drop_append_of_le_length (Nat.le_of_lt hlt), hrest, List.append_assoc]⟩

/-- **Placeholders do not overlap**: the later one starts with two opening braces, and the earlier one goes on with
none. -/
theorem At.apart_of_lt (hp : p.At t i) (hq : q.At t j) (hlt : i < j) : i + p.source.length ≤ j := by
  obtain ⟨-, -, hlong, hnone⟩ := hp.braces
  obtain ⟨hfirst, hsecond, -, -⟩ := hq.braces
  refine Nat.le_of_not_lt fun hover => ?_
  by_cases hnext : j = i + 1
  · exact hnone (j + 1) (by omega) (by omega) hsecond
  · exact hnone j (by omega) hover hfirst

theorem At.apart (hp : p.At t i) (hq : q.At t j) :
    (i = j ∧ p = q) ∨ i + p.source.length ≤ j ∨ j + q.source.length ≤ i := by
  rcases Nat.lt_trichotomy i j with hlt | rfl | hlt
  · exact .inr (.inl (hp.apart_of_lt hq hlt))
  · have hsame := (at_iff.1 hp).symm.trans (at_iff.1 hq)
    exact .inl ⟨rfl, (Prod.mk.inj (Option.some.inj hsame)).1⟩
  · exact .inr (.inr (hq.apart_of_lt hp hlt))

end Placeholder

/-! ## Scanning -/

/-- What a piece is written as. -/
def Piece.source : Piece Placeholder → Text
  | .char c => [c]
  | .item p => p.source

/-- The pieces make up a text, and the placeholders among them are those that are written in it, each at its place. -/
structure Divides (ps : List (Piece Placeholder)) (t : Text) : Prop where
  join : ps.flatMap Piece.source = t
  items (p : Placeholder) (pos : Nat) : p.At t pos ↔
    ∃ before after, ps = before ++ .item p :: after ∧ (before.flatMap Piece.source).length = pos

theorem Divides.nil : Divides [] [] where
  join := rfl
  items p pos := by
    constructor
    · intro h
      obtain ⟨hfirst, -⟩ := h.braces
      cases hfirst
    · rintro ⟨before, after, hsplit, -⟩
      simp at hsplit

/-- A piece before the pieces of the rest of a text. It is a placeholder exactly if one stands at the start. -/
theorem Divides.cons (piece : Piece Placeholder) {ps : List (Piece Placeholder)} {t : Text}
    (hstart : ∀ p : Placeholder, p.At (piece.source ++ t) 0 ↔ piece = .item p)
    (hinside : ∀ (p : Placeholder) pos, p.At (piece.source ++ t) pos → pos = 0 ∨ piece.source.length ≤ pos)
    (h : Divides ps t) : Divides (piece :: ps) (piece.source ++ t) where
  join := by rw [List.flatMap_cons, h.join]
  items p pos := by
    have hdrop : ∀ n, p.At (piece.source ++ t) (piece.source.length + n) ↔ p.At t n := by
      intro n
      rw [← Placeholder.at_drop, List.drop_left]
    constructor
    · intro hat
      rcases hinside p pos hat with rfl | hle
      · exact ⟨[], ps, by rw [(hstart p).1 hat]; rfl, rfl⟩
      · obtain ⟨n, rfl⟩ := Nat.exists_eq_add_of_le hle
        obtain ⟨before, after, rfl, hpos⟩ := (h.items p n).1 ((hdrop n).1 hat)
        exact ⟨piece :: before, after, rfl, by rw [List.flatMap_cons, List.length_append, hpos]⟩
    · rintro ⟨before, after, hsplit, rfl⟩
      cases before with
      | nil =>
        obtain ⟨hpiece, -⟩ := List.cons.inj hsplit
        exact (hstart p).2 hpiece
      | cons first before =>
        obtain ⟨rfl, hps⟩ := List.cons.inj hsplit
        rw [List.flatMap_cons, List.length_append]
        exact (hdrop _).2 ((h.items p _).2 ⟨before, after, hps, rfl⟩)

/-- **The scan finds every placeholder**, wherever it stands. -/
theorem divides_pieces (t : Text) : Divides (pieces placeholder? t) t := by
  induction t using pieces_induction placeholder? with
  | nil => exact .nil
  | char c cs hnone ih =>
    rw [Text.pieces_of_none hnone]
    refine Divides.cons (.char c) (fun p => ⟨fun hat => ?_, nofun⟩) (fun p pos hat => ?_) ih
    · have hread : placeholder? (c :: cs) = _ := Placeholder.at_iff.1 hat
      rw [hnone] at hread
      cases hread
    · exact Nat.eq_zero_or_pos pos
  | item c cs p width hread ih =>
    obtain ⟨hp, rfl, rest, hsplit⟩ := placeholder?_eq_some_iff.1 hread
    have hat : p.At (p.source ++ rest) 0 := hsplit ▸ Placeholder.at_iff.2 hread
    have hpos : 0 < p.source.length := by
      obtain ⟨-, -, hlong, -⟩ := hat.braces
      omega
    have hrest : cs.drop (p.source.length - 1) = rest := by
      rw [← List.drop_succ_cons (a := c), Nat.sub_add_cancel hpos, hsplit, List.drop_left]
    rw [Text.pieces_of_some hread, hsplit, hrest]
    rw [hrest] at ih
    refine Divides.cons (.item p) (fun q => ⟨fun hq => ?_, ?_⟩) (fun q pos hq => ?_) ih
    · rcases hat.apart hq with ⟨-, rfl⟩ | hle | hle
      · rfl
      · omega
      · obtain ⟨-, -, hlong, -⟩ := hq.braces
        omega
    · rintro ⟨⟩
      exact hat
    · rcases hat.apart hq with ⟨rfl, -⟩ | hle | hle
      · exact .inl rfl
      · exact .inr (by rwa [Nat.zero_add] at hle)
      · exact .inl (by omega)

/-! ## What is put in place -/

/-- What a placeholder is replaced by: the metadata for the reserved names, else the variable of its name, and itself
where there is none. -/
inductive Placeholder.ShownAs (vars : Fields) (metadata : Metadata) (p : Placeholder) : Text → Prop
  | reserved {v : Value} {u : Text} : p.name ∈ reservedNames → metadata.get? p.name = some v → v.printed = .ok u →
      ShownAs vars metadata p u
  | variable {v : Value} {u : Text} : p.name ∉ reservedNames → vars.get? p.name = some v → v.printed = .ok u →
      ShownAs vars metadata p u
  | unknown : p.name ∉ reservedNames → vars.get? p.name = none → ShownAs vars metadata p p.source

/-- What a piece is replaced by. -/
def Piece.ShownAs (vars : Fields) (metadata : Metadata) : Piece Placeholder → Text → Prop
  | .char c, u => u = [c]
  | .item p, u => p.ShownAs vars metadata u

variable {vars : Fields} {metadata : Metadata}

theorem placeholderValue?_of_reserved (vars : Fields) (metadata : Metadata) {name : Text} (h : name ∈ reservedNames) :
    ∃ v, metadata.get? name = some v ∧ placeholderValue? vars metadata name = some v := by
  obtain ⟨v, hv⟩ := metadata.get?_of_reserved (List.contains_iff_mem.2 h)
  exact ⟨v, hv, by rw [placeholderValue?, hv, Option.some_or]⟩

theorem placeholderValue?_of_not_reserved {name : Text} (h : name ∉ reservedNames) :
    placeholderValue? vars metadata name = vars.get? name := by
  have hnone : metadata.get? name = none := metadata.get?_of_not_reserved fun hc => h (List.contains_iff_mem.1 hc)
  rw [placeholderValue?, hnone, Option.none_or]

theorem substituteOne_eq_ok_iff {p : Placeholder} {u : Text} :
    substituteOne vars metadata p = .ok u ↔ p.ShownAs vars metadata u := by
  unfold substituteOne
  by_cases h : p.name ∈ reservedNames
  · obtain ⟨v, hget, hvalue⟩ := placeholderValue?_of_reserved vars metadata h
    rw [hvalue]
    refine ⟨fun hu => .reserved h hget hu, ?_⟩
    rintro (⟨-, hv, hu⟩ | ⟨hnot, -, -⟩ | ⟨hnot, -⟩)
    · rw [hget] at hv
      cases hv
      exact hu
    · exact absurd h hnot
    · exact absurd h hnot
  · rw [placeholderValue?_of_not_reserved h]
    constructor
    · intro hu
      cases hv : vars.get? p.name with
      | none =>
        rw [hv] at hu
        cases hu
        exact .unknown h hv
      | some v =>
        rw [hv] at hu
        exact .variable h hv hu
    · rintro (⟨hmem, -, -⟩ | ⟨-, hv, hu⟩ | ⟨-, hv⟩)
      · exact absurd hmem h
      · rw [hv]
        exact hu
      · rw [hv]

/-- Pieces are written by what each of them is replaced by. -/
theorem writeM_substituteOne_eq_ok_iff {ps : List (Piece Placeholder)} {out : Text} :
    Text.writeM (substituteOne vars metadata) ps = .ok out ↔
      ∃ shown, List.Forall₂ (Piece.ShownAs vars metadata) ps shown ∧ out = shown.flatten := by
  induction ps generalizing out with
  | nil =>
    constructor
    · intro h
      cases h
      exact ⟨[], .nil, rfl⟩
    · rintro ⟨shown, hshown, rfl⟩
      cases hshown
      rfl
  | cons piece ps ih =>
    cases piece with
    | char c =>
      rw [Text.writeM, bind_eq_ok_iff]
      constructor
      · rintro ⟨rest, hrest, hout⟩
        obtain ⟨shown, hshown, rfl⟩ := ih.1 hrest
        exact ⟨[c] :: shown, .cons rfl hshown, (Except.ok.inj hout).symm⟩
      · rintro ⟨shown, hshown, rfl⟩
        obtain ⟨u, us, rfl, hus, rfl⟩ := List.forall₂_cons_left_iff.1 hshown
        exact ⟨us.flatten, ih.2 ⟨us, hus, rfl⟩, rfl⟩
    | item p =>
      rw [Text.writeM, bind_eq_ok_iff]
      constructor
      · rintro ⟨here, hhere, h⟩
        obtain ⟨rest, hrest, hout⟩ := bind_eq_ok_iff.1 h
        obtain ⟨shown, hshown, rfl⟩ := ih.1 hrest
        exact ⟨here :: shown, .cons (substituteOne_eq_ok_iff.1 hhere) hshown, (Except.ok.inj hout).symm⟩
      · rintro ⟨shown, hshown, rfl⟩
        obtain ⟨u, us, hu, hus, rfl⟩ := List.forall₂_cons_left_iff.1 hshown
        exact ⟨u, substituteOne_eq_ok_iff.2 hu, bind_eq_ok_iff.2 ⟨us.flatten, ih.2 ⟨us, hus, rfl⟩, rfl⟩⟩

/-- A placeholder whose value can be printed is replaced by something, and so is one without a value. -/
theorem Placeholder.exists_shownAs {p : Placeholder}
    (h : ∀ v, placeholderValue? vars metadata p.name = some v → ∃ u, v.printed = .ok u) :
    ∃ u, p.ShownAs vars metadata u := by
  cases hvalue : placeholderValue? vars metadata p.name with
  | none => exact ⟨p.source, substituteOne_eq_ok_iff.1 (by rw [substituteOne, hvalue])⟩
  | some v =>
    obtain ⟨u, hu⟩ := h v hvalue
    exact ⟨u, substituteOne_eq_ok_iff.1 (by rw [substituteOne, hvalue]; exact hu)⟩

/-- Where every placeholder of a text is replaced by something, substitution gives a result. -/
theorem exists_shown {t : Text} (h : ∀ (p : Placeholder) pos, p.At t pos → ∃ u, p.ShownAs vars metadata u) :
    ∃ shown, List.Forall₂ (Piece.ShownAs vars metadata) (pieces placeholder? t) shown ∧
      substitute t vars metadata = .ok shown.flatten := by
  have hpieces : ∀ piece ∈ pieces placeholder? t, ∃ u, piece.ShownAs vars metadata u := by
    intro piece hmem
    cases piece with
    | char c => exact ⟨[c], rfl⟩
    | item p =>
      obtain ⟨before, after, hsplit⟩ := List.append_of_mem hmem
      exact h p _ (((divides_pieces t).items p _).2 ⟨before, after, hsplit, rfl⟩)
  obtain ⟨shown, hshown⟩ := exists_forall₂ hpieces
  exact ⟨shown, hshown, writeM_substituteOne_eq_ok_iff.2 ⟨shown, hshown, rfl⟩⟩

/-! ## Splits -/

/-- No placeholder of the two texts together lies in both. -/
def Uncut (a b : Text) : Prop :=
  ∀ (p : Placeholder) pos, p.At (a ++ b) pos → pos + p.source.length ≤ a.length ∨ a.length ≤ pos

theorem Uncut.parts {a b : Text} (h : Uncut a b) : Text.Parts placeholder? a b := by
  rintro u v p width rfl hv hread
  obtain ⟨-, rfl, -⟩ := placeholder?_eq_some_iff.1 hread
  have hat : p.At (u ++ v ++ b) u.length := by
    rw [Placeholder.at_iff, List.append_assoc, List.drop_left]
    exact hread
  have hpos : 0 < v.length := List.length_pos_of_ne_nil hv
  rcases h p u.length hat with hle | hle
  · rw [List.length_append] at hle
    omega
  · rw [List.length_append] at hle
    omega

theorem substitute_append_of_uncut {a b : Text} (h : Uncut a b) : substitute (a ++ b) vars metadata
    = do return (← substitute a vars metadata) ++ (← substitute b vars metadata) :=
  ended_placeholder?.replaceM_append _ h.parts

/-! ## Substitution -/

/-- Variables that answer alike for all other names answer alike for substitution. -/
theorem substitute_congr {vars' : Fields} (h : ∀ name, name ∉ reservedNames → vars'.get? name = vars.get? name)
    (t : Text) : substitute t vars' metadata = substitute t vars metadata := by
  have hone : substituteOne vars' metadata = substituteOne vars metadata := by
    funext p
    have hvalue : placeholderValue? vars' metadata p.name = placeholderValue? vars metadata p.name := by
      by_cases hp : p.name ∈ reservedNames
      · obtain ⟨v, hget, -⟩ := placeholderValue?_of_reserved vars metadata hp
        rw [placeholderValue?, placeholderValue?, hget, Option.some_or, Option.some_or]
      · rw [placeholderValue?_of_not_reserved hp, placeholderValue?_of_not_reserved hp, h _ hp]
    rw [substituteOne, substituteOne, hvalue]
  rw [substitute, substitute, hone]

/-- **Substitution replaces exactly the placeholders**: those of a text do not overlap, each is replaced by what its
name stands for, and all other characters stay. It goes through every split that cuts no placeholder, and what the
variables hold for the reserved names does not matter. -/
theorem substitute_replaces_placeholders (t : Text) (hprinted : ∀ (p : Placeholder) pos v, p.At t pos →
      placeholderValue? vars metadata p.name = some v → ∃ u, v.printed = .ok u) :
    (∀ (p q : Placeholder) i j, p.At t i → q.At t j →
      (i = j ∧ p = q) ∨ i + p.source.length ≤ j ∨ j + q.source.length ≤ i) ∧
    (∃ ps shown, Divides ps t ∧ List.Forall₂ (Piece.ShownAs vars metadata) ps shown ∧
      substitute t vars metadata = .ok shown.flatten) ∧
    (∀ a b, t = a ++ b → Uncut a b → ∃ ua ub, substitute a vars metadata = .ok ua ∧
      substitute b vars metadata = .ok ub ∧ substitute t vars metadata = .ok (ua ++ ub)) ∧
    ∀ vars' : Fields, (∀ name, name ∉ reservedNames → vars'.get? name = vars.get? name) →
      substitute t vars' metadata = substitute t vars metadata := by
  have hshows : ∀ (p : Placeholder) pos, p.At t pos → ∃ u, p.ShownAs vars metadata u := fun p pos hp =>
    Placeholder.exists_shownAs fun v => hprinted p pos v hp
  refine ⟨fun p q i j hp hq => hp.apart hq, ?_, ?_, fun vars' h => substitute_congr h t⟩
  · obtain ⟨shown, hshown, hout⟩ := exists_shown hshows
    exact ⟨pieces placeholder? t, shown, divides_pieces t, hshown, hout⟩
  · rintro a b rfl huncut
    obtain ⟨shownA, -, houtA⟩ := exists_shown fun p pos (hp : p.At a pos) => hshows p pos (hp.append_left b)
    obtain ⟨shownB, -, houtB⟩ := exists_shown fun p pos (hp : p.At b pos) => hshows p _ (hp.append_right a)
    refine ⟨shownA.flatten, shownB.flatten, houtA, houtB, ?_⟩
    rw [substitute_append_of_uncut huncut, houtA, houtB]
    rfl

/-- Placeholders between further braces, and next to a tag that is not finished. -/
def crowdedText : Text :=
  "\x7b\x7b\x7ba\x7d\x7d\x7d\x7b\x7b \x7b\x7b a\x7d\x7d\x7b\x7bb\x7d\x7d\x7b\x7bversion\x7d\x7d".text

def crowdedVars (version : Text) : Fields :=
  [(.str ['a'], .str "\x7b\x7bb\x7d\x7d".text), (.str versionName, .str version)]

def crowdedMetadata : Metadata := ⟨.null, .str ['2'], .null⟩

theorem crowdedText_replaced : (∃ ps shown, Divides ps crowdedText ∧
      List.Forall₂ (Piece.ShownAs (crowdedVars ['3']) crowdedMetadata) ps shown ∧ shown.flatten
        = "\x7b\x7b\x7bb\x7d\x7d\x7d\x7b\x7b \x7b\x7bb\x7d\x7d\x7b\x7bb\x7d\x7d2".text) ∧
    substitute crowdedText (crowdedVars ['4']) crowdedMetadata
      = substitute crowdedText (crowdedVars ['3']) crowdedMetadata := by
  have hmetadata : ∀ name v, crowdedMetadata.get? name = some v → ∃ u, v.printed = .ok u := by
    intro name v h
    simp only [Metadata.get?] at h
    split at h
    · cases h
      exact ⟨[], rfl⟩
    · split at h
      · cases h
        exact ⟨['2'], rfl⟩
      · split at h
        · cases h
          exact ⟨[], rfl⟩
        · cases h
  have hvars : ∀ name v, (crowdedVars ['3']).get? name = some v → ∃ u, v.printed = .ok u := by
    intro name v h
    simp only [crowdedVars, Fields.get?] at h
    split at h
    · cases h
      exact ⟨_, rfl⟩
    · split at h
      · cases h
        exact ⟨_, rfl⟩
      · cases h
  have hversion : ∀ name, name ∉ reservedNames → (crowdedVars ['4']).get? name = (crowdedVars ['3']).get? name := by
    intro name h
    have hne : versionName ≠ name := by
      rintro rfl
      exact h (by decide)
    simp only [crowdedVars, Fields.get?, if_neg hne]
  have hprinted : ∀ (p : Placeholder) pos v, p.At crowdedText pos →
      placeholderValue? (crowdedVars ['3']) crowdedMetadata p.name = some v → ∃ u, v.printed = .ok u := by
    intro p pos v _ h
    rcases Option.or_eq_some_iff.1 h with hget | ⟨-, hget⟩
    · exact hmetadata p.name v hget
    · exact hvars p.name v hget
  obtain ⟨-, ⟨ps, shown, hps, hshown, hout⟩, -, hsame⟩ := substitute_replaces_placeholders crowdedText hprinted
  exact ⟨⟨ps, shown, hps, hshown, Except.ok.inj (hout.symm.trans rfl)⟩, hsame _ hversion⟩

end Stencil
