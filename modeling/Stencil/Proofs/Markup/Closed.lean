import Stencil.Directive.Passes
import Stencil.Proofs.Markup.Locality
import Stencil.Proofs.Markup.Written
import Stencil.Proofs.Text.Local

/-!
# Closed tags, whatever they are written with

* The scan of a tag goes on inside it at depth one (`Markers.matchFrom_writes`), and passes each marker as a whole.
* A **closed tag** (`ClosedTag`) is an opening tag together with its match. What stands after its closing marker does
  not matter (`ClosedTag.take`).
* Loops and conditionals are read off closed tags (`loop?_eq_some_iff`, `conditional?_eq_some_iff`). Hence their readers
  are local, and what they read ends with a brace (`ended_of_closedTag`, `ended_block?`).
-/

namespace Stencil

open Markup (elseText)
open Text (BraceFree occursAt)

variable {kind : TagKind} {t s u name : Text}

/-! ## Written tags -/

/-- The opening marker of a kind and what comes after it in a tag. -/
theorem TagKind.Writes.split (h : kind.Writes name u) :
    ∃ inside, u = kind.markers.opening ++ inside ∧ BraceFree inside := by
  obtain ⟨inside, hinside, rfl⟩ := h
  refine ⟨inside, ?_, hinside.braceFree setsOff_space⟩
  cases kind <;> rfl

/-- Tags of different kinds are written differently. -/
theorem openTagOf?_of_writes {kind' : TagKind} (hkind : kind ≠ kind') (h : kind'.Writes name u) (s : Text) :
    openTagOf? kind (u ++ s) = none := by
  obtain ⟨inside, -, rfl⟩ := h
  cases kind <;> cases kind' <;> first
    | exact absurd rfl hkind
    | simp [openTagOf?, TagKind.word, Text.after?]

/-! ## Markers passed over -/

namespace Markers

variable {pos d : Nat} {e : Option Nat}

theorem scan_opening (kind : TagKind) (s : Text) :
    kind.markers.scan (kind.markers.opening ++ s) ⟨pos, 0, d, e⟩
      = kind.markers.scan s ⟨pos + kind.markers.opening.length, 0, d + 1, e⟩ := by
  have hstep : kind.markers.step (kind.markers.opening ++ s) ⟨pos, 0, d, e⟩
      = .ok ⟨pos + 1, kind.markers.opening.length - 1, d + 1, e⟩ := by
    cases kind <;> simp [conditionalMarkers, loopMarkers, step]
  exact scan_marker (by cases kind <;> decide) hstep

theorem scan_closing_deep (kind : TagKind) (hd : 1 ≤ d) (s : Text) :
    kind.markers.scan (kind.markers.closing ++ s) ⟨pos, 0, d + 1, e⟩
      = kind.markers.scan s ⟨pos + kind.markers.closing.length, 0, d, e⟩ := by
  have hinside : inside kind kind d = d + 1 := if_pos rfl
  rw [← hinside]
  exact scan_closing kind hd s

/-- The alternative marker that a scan keeps when it comes to one at a place. -/
def keepFirst (kind : TagKind) (d : Nat) (e : Option Nat) (pos : Nat) : Option Nat :=
  if kind = .conditional ∧ d = 1 ∧ e = none then some pos else e

/-- The marker between two branches is passed over, and perhaps kept. -/
theorem scan_elseText_keep (s : Text) : kind.markers.scan (elseText ++ s) ⟨pos, 0, d, e⟩
    = kind.markers.scan s ⟨pos + elseText.length, 0, d, keepFirst kind d e pos⟩ := by
  unfold keepFirst
  split
  · rename_i hfirst
    obtain ⟨rfl, rfl, rfl⟩ := hfirst
    exact scan_elseText_one s
  · rename_i hother
    refine scan_elseText (fun hkind => ?_) s
    cases e with
    | none => exact .inl fun hd => hother ⟨hkind, hd, rfl⟩
    | some _ => exact .inr rfl

/-- A tag of the scan's own kind raises the depth. -/
theorem scan_writes (h : kind.Writes name u) (s : Text) :
    kind.markers.scan (u ++ s) ⟨pos, 0, d, e⟩ = kind.markers.scan s ⟨pos + u.length, 0, d + 1, e⟩ := by
  obtain ⟨inside, rfl, hfree⟩ := h.split
  rw [List.append_assoc, scan_opening, scan_braceFree _ _ _ hfree, List.length_append, Nat.add_assoc]

/-- **The scan of a tag** goes on inside it at depth one. -/
theorem matchFrom_writes (h : kind.Writes name u) (s : Text) :
    kind.markers.matchFrom (u ++ s) 0 = found? (kind.markers.scan s ⟨u.length, 0, 1, none⟩) := by
  rw [matchFrom, List.drop_zero, Progress.start, scan_writes h, Nat.zero_add]

end Markers

open Markers

/-! ## Closed tags -/

/-- An opening tag at the head of a text, and its match. -/
structure ClosedTag (kind : TagKind) (t : Text) (tag : OpenTag) (found : TagMatch) : Prop where
  opening : openTagOf? kind t = some tag
  matched : kind.markers.matchFrom t 0 = some found

theorem closing_length_pos (kind : TagKind) : 0 < kind.markers.closing.length := by cases kind <;> decide

namespace ClosedTag

variable {tag : OpenTag} {found : TagMatch}

theorem occursAt_opening (h : ClosedTag kind t tag found) : occursAt kind.markers.opening t 0 = true := by
  obtain ⟨u, hu, -, s, rfl⟩ := openTagOf?_eq_some_iff.1 h.opening
  obtain ⟨inside, rfl, -⟩ := hu.split
  simp [occursAt]

/-- A closed tag ends with a brace. -/
theorem last_eq (h : ClosedTag kind t tag found) :
    t[found.closePos + kind.markers.closing.length - 1]? = some (Point.char '}') := by
  have hclose := ((matchFrom_eq_some_iff h.occursAt_opening).1 h.matched).closes.1.closing
  have hlast : kind.markers.closing[kind.markers.closing.length - 1]? = some (Point.char '}') := by cases kind <;> rfl
  have hpos := closing_length_pos kind
  rw [Nat.add_sub_assoc hpos, getElem?_of_occursAt hclose (Nat.sub_lt hpos Nat.one_pos), hlast]

theorem width_le (h : ClosedTag kind t tag found) : found.closePos + kind.markers.closing.length ≤ t.length := by
  obtain ⟨hlt, -⟩ := List.getElem?_eq_some_iff.1 h.last_eq
  omega

/-- The match of a tag is after the tag. -/
theorem tag_width_le (h : ClosedTag kind t tag found) : tag.width ≤ found.closePos := by
  obtain ⟨u, hu, htag, s, rfl⟩ := openTagOf?_eq_some_iff.1 h.opening
  have hmatch := h.matched
  rw [matchFrom_writes hu] at hmatch
  cases hscan : kind.markers.scan s ⟨u.length, 0, 1, none⟩ with
  | ok p =>
    rw [hscan] at hmatch
    cases hmatch
  | error found' =>
    rw [hscan] at hmatch
    cases hmatch
    rw [htag]
    exact (scan_found (fun _ h => by cases h) hscan).1

/-- The second branch of a tag starts after the tag. -/
theorem tag_width_le_elsePos (h : ClosedTag kind t tag found) : ∀ e ∈ found.elsePos, tag.width ≤ e := by
  obtain ⟨u, hu, htag, s, rfl⟩ := openTagOf?_eq_some_iff.1 h.opening
  have hmatch := h.matched
  rw [matchFrom_writes hu] at hmatch
  cases hscan : kind.markers.scan s ⟨u.length, 0, 1, none⟩ with
  | ok p =>
    rw [hscan] at hmatch
    cases hmatch
  | error found' =>
    rw [hscan] at hmatch
    cases hmatch
    rw [htag]
    exact scan_elsePos (fun _ h => by cases h) (Nat.le_refl _) hscan

/-- The first branch of a tag ends where its second one starts, or where the tag is closed. -/
theorem elsePos_getD_le (h : ClosedTag kind t tag found) : found.elsePos.getD found.closePos ≤ found.closePos := by
  cases hpos : found.elsePos with
  | none => exact Nat.le_refl _
  | some pos => exact (matchFrom_found h.matched).2 pos hpos

/-- What stands after a closed tag does not matter. -/
theorem take (h : ClosedTag kind t tag found) (rest : Text) :
    ClosedTag kind (t.take (found.closePos + kind.markers.closing.length) ++ rest) tag found where
  opening := by
    have hwidth := h.tag_width_le
    obtain ⟨u, hu, htag, s, rfl⟩ := openTagOf?_eq_some_iff.1 h.opening
    rw [htag] at hwidth
    have hcut : (u ++ s).take (found.closePos + kind.markers.closing.length)
        = u ++ s.take (found.closePos + kind.markers.closing.length - u.length) := by
      rw [List.take_append, List.take_of_length_le (Nat.le_trans hwidth (Nat.le_add_right _ _))]
    rw [hcut, List.append_assoc]
    exact openTagOf?_eq_some_iff.2 ⟨u, hu, htag, _, rfl⟩
  matched := matchFrom_take h.occursAt_opening h.matched rest

end ClosedTag

/-! ## Loops and conditionals -/

section Closed

variable {width : Nat}

/-- A slice does not depend on what stands after it. -/
theorem Text.slice_take_append {n first last : Nat} (hlast : last ≤ n) (hn : n ≤ t.length) (rest : Text) :
    Text.slice (t.take n ++ rest) first last = t.slice first last := by
  have hle : last ≤ (t.take n).length := by rwa [List.length_take_of_le hn]
  rw [Text.slice, Text.slice, List.take_append_of_le_length hle, List.take_take, Nat.min_eq_left hlast]

/-- The loop of a closed tag. -/
def loopOf (t : Text) (tag : OpenTag) (found : TagMatch) : Loop := ⟨tag.name, t.slice tag.width found.closePos⟩

theorem loop?_eq_some_iff {l : Loop} : loop? t = some (l, width) ↔ ∃ tag found, ClosedTag .loop t tag found ∧
    l = loopOf t tag found ∧ width = found.closePos + loopMarkers.closing.length := by
  simp only [loop?, Option.bind_eq_bind, Option.bind_eq_some_iff, Option.pure_def, Option.some.injEq, Prod.mk.injEq]
  constructor
  · rintro ⟨tag, hopen, found, hfound, rfl, rfl⟩
    exact ⟨tag, found, ⟨hopen, hfound⟩, rfl, rfl⟩
  · rintro ⟨tag, found, ⟨hopen, hfound⟩, rfl, rfl⟩
    exact ⟨tag, hopen, found, hfound, rfl, rfl⟩

/-- The conditional of a closed tag. -/
def conditionalOf (t : Text) (tag : OpenTag) (found : TagMatch) : Conditional where
  name := tag.name
  yes := t.slice tag.width (found.elsePos.getD found.closePos)
  no := found.elsePos.map fun pos => t.slice (pos + conditionalMarkers.alternativeLength) found.closePos

theorem conditional?_eq_some_iff {c : Conditional} : conditional? t = some (c, width) ↔
    ∃ tag found, ClosedTag .conditional t tag found ∧ c = conditionalOf t tag found ∧
      width = found.closePos + conditionalMarkers.closing.length := by
  have hread : conditional? t = do
      let tag ← openTagOf? .conditional t
      let found ← conditionalMarkers.matchFrom t 0
      return (conditionalOf t tag found, found.closePos + conditionalMarkers.closing.length) := by
    unfold conditional?
    congr 1
    funext tag
    congr 1
    funext ⟨close, split⟩
    cases split <;> rfl
  simp only [hread, Option.bind_eq_bind, Option.bind_eq_some_iff, Option.pure_def, Option.some.injEq, Prod.mk.injEq]
  constructor
  · rintro ⟨tag, hopen, found, hfound, rfl, rfl⟩
    exact ⟨tag, found, ⟨hopen, hfound⟩, rfl, rfl⟩
  · rintro ⟨tag, found, ⟨hopen, hfound⟩, rfl, rfl⟩
    exact ⟨tag, hopen, found, hfound, rfl, rfl⟩

/-- A closed conditional is no closed loop. -/
theorem loop?_of_conditional {c : Conditional} (h : conditional? t = some (c, width)) : loop? t = none := by
  obtain ⟨tag, found, hclosed, -, -⟩ := conditional?_eq_some_iff.1 h
  obtain ⟨u, hu, -, s, rfl⟩ := openTagOf?_eq_some_iff.1 hclosed.opening
  have hkind : TagKind.loop ≠ .conditional := by decide
  simp [loop?, openTagOf?_of_writes hkind hu]

/-- A turn finds a closed loop, or a conditional that belongs to the turn. -/
theorem block?_eq_some_iff {withElse : Bool} {b : Block} : block? withElse t = some (b, width) ↔
    (b = .loop (t.take width) ∧ ∃ l, loop? t = some (l, width)) ∨
    ∃ c, b = .choice c ∧ c.no.isSome = withElse ∧ conditional? t = some (c, width) := by
  unfold block?
  cases hloop : loop? t with
  | some found =>
    obtain ⟨l, width'⟩ := found
    have hcond : ∀ c, conditional? t ≠ some (c, width) := by
      intro c hc
      rw [loop?_of_conditional hc] at hloop
      cases hloop
    constructor
    · intro h
      cases h
      exact .inl ⟨rfl, l, rfl⟩
    · rintro (⟨rfl, l', hl'⟩ | ⟨c, -, -, hc⟩)
      · cases hl'
        rfl
      · exact absurd hc (hcond c)
  | none =>
    cases hcond : conditional? t with
    | none => simp
    | some found =>
      obtain ⟨c, width'⟩ := found
      by_cases hno : c.no.isSome = withElse
      · simp only [if_pos hno, Option.some.injEq, Prod.mk.injEq]
        constructor
        · rintro ⟨rfl, rfl⟩
          exact .inr ⟨c, rfl, hno, rfl, rfl⟩
        · rintro (⟨-, l, h⟩ | ⟨c', rfl, -, rfl, rfl⟩)
          · cases h
          · exact ⟨rfl, rfl⟩
      · simp only [if_neg hno, Option.some.injEq, Prod.mk.injEq]
        constructor
        · rintro ⟨⟩
        · rintro (⟨-, l, h⟩ | ⟨c', -, hno', rfl, -⟩)
          · cases h
          · exact absurd hno' hno

/-! ## Closed tags are local -/

/-- A reader of closed tags ends with them, if what it makes of a tag does not depend on what stands after it. -/
theorem ended_of_closedTag {α : Type} {read : Text.Recogniser α} (kind : TagKind) (item : Text → OpenTag → TagMatch → α)
    (hread : ∀ {t a width}, read t = some (a, width) ↔ ∃ tag found, ClosedTag kind t tag found ∧
      a = item t tag found ∧ width = found.closePos + kind.markers.closing.length)
    (hitem : ∀ {t tag found}, ClosedTag kind t tag found → ∀ rest,
      item (t.take (found.closePos + kind.markers.closing.length) ++ rest) tag found = item t tag found) :
    Text.Ended read '}' := by
  refine ⟨⟨fun h => ?_, fun h rest => ?_⟩, fun h => ?_⟩ <;> obtain ⟨tag, found, hclosed, rfl, rfl⟩ := hread.1 h
  · exact hclosed.width_le
  · exact hread.2 ⟨tag, found, hclosed.take rest, (hitem hclosed rest).symm, rfl⟩
  · exact ⟨Nat.add_pos_right _ (closing_length_pos kind), hclosed.last_eq⟩

theorem ended_loop? : Text.Ended loop? '}' :=
  ended_of_closedTag .loop loopOf loop?_eq_some_iff fun h rest => by
    rw [loopOf, Text.slice_take_append (Nat.le_add_right _ _) h.width_le]
    rfl

theorem ended_conditional? : Text.Ended conditional? '}' := by
  refine ended_of_closedTag .conditional conditionalOf conditional?_eq_some_iff fun {t tag found} h rest => ?_
  have hslice : ∀ first last, last ≤ found.closePos →
      Text.slice (t.take (found.closePos + conditionalMarkers.closing.length) ++ rest) first last
        = t.slice first last := fun first last hlast =>
    Text.slice_take_append (Nat.le_trans hlast (Nat.le_add_right _ _)) h.width_le rest
  simp only [conditionalOf, hslice _ _ h.elsePos_getD_le, hslice _ _ (Nat.le_refl _)]

theorem ended_block? (withElse : Bool) : Text.Ended (block? withElse) '}' := by
  refine ⟨⟨fun h => ?_, fun h rest => ?_⟩, fun h => ?_⟩
  · rcases block?_eq_some_iff.1 h with ⟨-, l, hl⟩ | ⟨c, -, -, hc⟩
    · exact ended_loop?.width_le hl
    · exact ended_conditional?.width_le hc
  · rcases block?_eq_some_iff.1 h with ⟨rfl, l, hl⟩ | ⟨c, rfl, hno, hc⟩
    · refine block?_eq_some_iff.2 (.inl ⟨?_, l, ended_loop?.read_take hl rest⟩)
      rw [List.take_left' (List.length_take_of_le (ended_loop?.width_le hl))]
    · exact block?_eq_some_iff.2 (.inr ⟨c, rfl, hno, ended_conditional?.read_take hc rest⟩)
  · rcases block?_eq_some_iff.1 h with ⟨-, l, hl⟩ | ⟨c, -, -, hc⟩
    · exact ended_loop?.last_eq hl
    · exact ended_conditional?.last_eq hc

end Closed

end Stencil
