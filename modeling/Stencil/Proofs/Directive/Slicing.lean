import Stencil.Proofs.Directive.Alternating
import Stencil.Proofs.Markup.Walking

/-!
# The slices of a conditional

* **Slices** of a text continue what stands before them (`Text.take_append_slice`).
* **The parts of a conditional** (`conditionalParts`) are cut out of a text at the places of its match. They stand apart
  and make up the text (`Sliced`, `sliced_of_matched`).
* **Matches are safe to slice with** (`matches_safe_to_slice`): the walk of any markers ends with the match of the scan,
  which lies in the text, and the slices of a conditional do not meet.
-/

namespace Stencil

open Markup (elseText)
open Text (occursAt)

/-! ## Slices -/

namespace Text

variable {u t : Text} {i j : Nat}

/-- A slice continues what stands before it. -/
theorem take_append_slice (h : i ≤ j) (rest : Text) : t.take i ++ (t.slice i j ++ rest) = t.take j ++ rest := by
  have hcut : t.take i ++ (t.take j).drop i = t.take j := by
    conv_rhs => rw [← List.take_append_drop i (t.take j), List.take_take, Nat.min_eq_left h]
  rw [← List.append_assoc, slice, hcut]

/-- A marker continues what stands before it. -/
theorem take_append_of_occursAt (h : occursAt u t i = true) (rest : Text) :
    t.take i ++ (u ++ rest) = t.take (i + u.length) ++ rest := by
  have hslice : t.slice i (i + u.length) = u := by
    rw [slice, List.drop_take, drop_of_occursAt h, Nat.add_sub_cancel_left, List.take_left]
  rw [← take_append_slice (Nat.le_add_right i u.length), hslice]

end Text

/-! ## The parts of a conditional -/

/-- The parts of a text with a conditional whose tag starts at a position: what stands before it, its tag, its first
branch, the marker between the branches and the second branch if it has one, its closing marker, and what stands after
it. -/
def conditionalParts (t : Text) (start : Nat) (tag : OpenTag) (found : TagMatch) : List Text :=
  let inside := start + tag.width
  let second := match found.elsePos with
    | some _ => [elseText, branchFrom t inside found false]
    | none => []
  [t.take start, t.slice start inside, branchFrom t inside found true] ++ second ++
    [conditionalMarkers.closing, t.drop (found.closePos + conditionalMarkers.closing.length)]

/-- A conditional whose parts stand apart. -/
structure Sliced (t : Text) (start : Nat) (tag : OpenTag) (found : TagMatch) : Prop where
  /-- The tag ends before the first branch does. -/
  tag_le : start + tag.width ≤ found.elsePos.getD found.closePos
  /-- The marker between the branches ends before the second branch does. -/
  second_le : ∀ e ∈ found.elsePos, e + elseText.length ≤ found.closePos
  /-- The closing marker ends in the text. -/
  closing_le : found.closePos + conditionalMarkers.closing.length ≤ t.length
  /-- The parts make up the text. -/
  parts : (conditionalParts t start tag found).flatten = t
  /-- The branches are those of the conditional that is read at the position. -/
  branches : ∃ c width, conditional? (t.drop start) = some (c, width) ∧
    ∀ holds, branchFrom t (start + tag.width) found holds = c.branch holds

section Parts

variable {t : Text} {start : Nat} {tag : OpenTag} {found : TagMatch}

/-- The match of a tag, counted from the tag. -/
theorem exists_closedTag (htag : openTagOf? .conditional (t.drop start) = some tag)
    (hfound : conditionalMarkers.matchFrom t start = some found) :
    ∃ near, ClosedTag .conditional (t.drop start) tag near ∧ found = near.shift start := by
  rw [matchFrom_drop htag] at hfound
  obtain ⟨near, hnear, hshift⟩ := Option.map_eq_some_iff.1 hfound
  exact ⟨near, ⟨htag, hnear⟩, hshift.symm⟩

/-- The tag of a conditional ends before its first branch does. -/
theorem tag_le_of_matched (htag : openTagOf? .conditional (t.drop start) = some tag)
    (hfound : conditionalMarkers.matchFrom t start = some found) :
    start + tag.width ≤ found.elsePos.getD found.closePos := by
  obtain ⟨near, hclosed, rfl⟩ := exists_closedTag htag hfound
  cases hpos : near.elsePos with
  | none =>
    have hwidth := hclosed.tag_width_le
    simp only [TagMatch.shift, hpos, Option.map_none, Option.getD_none]
    omega
  | some e =>
    have hwidth := hclosed.tag_width_le_elsePos e hpos
    simp only [TagMatch.shift, hpos, Option.map_some, Option.getD_some]
    omega

/-- **The parts of a conditional** make up the text. -/
theorem flatten_conditionalParts (hin : conditionalMarkers.InBounds t start found)
    (htag : start + tag.width ≤ found.elsePos.getD found.closePos) :
    (conditionalParts t start tag found).flatten = t := by
  obtain ⟨close, o⟩ := found
  have hstart : start ≤ start + tag.width := Nat.le_add_right _ _
  cases o with
  | none =>
    have hyes : start + tag.width ≤ close := htag
    simp only [conditionalParts, branchFrom, if_true, List.cons_append, List.nil_append, List.flatten_cons,
      List.flatten_nil, List.append_nil]
    rw [Text.take_append_slice hstart, Text.take_append_slice hyes, Text.take_append_of_occursAt hin.closing,
      List.take_append_drop]
  | some e =>
    have hyes : start + tag.width ≤ e := htag
    obtain ⟨-, marker, hmarker, helse, hno⟩ := hin.alternative e rfl
    obtain rfl : elseText = marker := Option.some.inj hmarker
    simp only [conditionalParts, branchFrom, if_true, Bool.false_eq_true, if_false, List.cons_append, List.nil_append,
      List.flatten_cons, List.flatten_nil, List.append_nil]
    rw [Text.take_append_slice hstart, Text.take_append_slice hyes, Text.take_append_of_occursAt helse]
    rw [show conditionalMarkers.alternativeLength = elseText.length from rfl, Text.take_append_slice hno,
      Text.take_append_of_occursAt hin.closing, List.take_append_drop]

/-- **The parts of a conditional stand apart** and make up the text. -/
theorem sliced_of_matched (htag : openTagOf? .conditional (t.drop start) = some tag)
    (hfound : conditionalMarkers.matchFrom t start = some found) : Sliced t start tag found := by
  have hin : conditionalMarkers.InBounds t start found := Markers.matchFrom_inBounds (by decide) hfound
  have hle := tag_le_of_matched htag hfound
  refine ⟨hle, fun e he => ?_, hin.closing_le, flatten_conditionalParts hin hle, ?_⟩
  · obtain ⟨-, marker, hmarker, -, hno⟩ := hin.alternative e he
    obtain rfl : elseText = marker := Option.some.inj hmarker
    exact hno
  · obtain ⟨near, hclosed, rfl⟩ := exists_closedTag htag hfound
    refine ⟨conditionalOf (t.drop start) tag near, _, conditional?_eq_some_iff.2 ⟨tag, near, hclosed, rfl, rfl⟩, ?_⟩
    intro holds
    have hstart : (t.take start).length = start := by
      have hlt := hin.closePos_lt
      have hle := hin.start_le
      exact List.length_take_of_le (by omega)
    have hshift := branchFrom_shift (t.take start) (t.drop start) tag near holds
    rwa [List.take_append_drop, hstart] at hshift

end Parts

/-! ## Matches are safe to slice with -/

open Markers (Walk)

/-- **Matches are safe to slice with.** For any markers, also empty ones and such that overlap, the walk of a text from a
start ends exactly if the opening marker has a character or the text has none from the start on. It takes at most two
steps for each character and one more, and comes to the match of the scan. Both markers of a match stand in the text, not
before the start, and the alternative marker ends before the closing one starts. For the tag of a conditional, moreover,
the tag ends before either of them starts, and the slices that are taken for the branches meet neither the tags nor each
other. -/
theorem matches_safe_to_slice (m : Markers) (t : Text) (start : Nat) :
    ((∃ n answer, Walk.Runs m t n (.start start) answer) ↔ m.opening ≠ [] ∨ t.length ≤ start) ∧
    (∀ n answer, Walk.Runs m t n (.start start) answer → n ≤ 2 * (t.length - start) + 1 ∧
      answer = m.matchFrom t start ∧ ∀ found ∈ answer, m.InBounds t start found) ∧
    ∀ tag found, openTag? (t.drop start) = some tag → tag.kind = .conditional →
      conditionalMarkers.matchFrom t start = some found → Sliced t start tag found := by
  refine ⟨Walk.exists_runs_iff, fun n answer hruns => ?_, fun tag found htag hkind hfound => ?_⟩
  · obtain ⟨hsteps, hanswer⟩ := hruns.outcome
    have hpotential : (Walk.start start).potential t = 2 * (t.length - start) + 1 := rfl
    exact ⟨by omega, hanswer, hruns.inBounds (Walk.ordered_start m t start)⟩
  · have hopen := openTagOf?_of_openTag? htag
    rw [hkind] at hopen
    exact sliced_of_matched hopen hfound

/-- Markers of which the opening one is a brace and the other two are empty. -/
def emptyClosing : Markers := ⟨['{'], [], some []⟩

/-- A conditional with two branches, after a letter. -/
def letterThenChoice : Text := 'x' :: (Markup.ifElse "a" (Markup.lit "y") (Markup.lit "z")).print

/-- The walk passes two braces and then closes both at one place. The tag in the same text is matched after it. -/
theorem letterThenChoice_safe : emptyClosing.opening ≠ [] ∧
    (∃ n answer, Walk.Runs emptyClosing letterThenChoice n (.start 1) answer) ∧
    Walk.Runs emptyClosing letterThenChoice 3 (.start 1) (some ⟨3, none⟩) ∧
    emptyClosing.InBounds letterThenChoice 1 ⟨3, none⟩ ∧
    openTag? (letterThenChoice.drop 1) = some ⟨.conditional, ['a'], 9⟩ ∧
    conditionalMarkers.matchFrom letterThenChoice 1 = some ⟨20, some 11⟩ ∧
    Sliced letterThenChoice 1 ⟨.conditional, ['a'], 9⟩ ⟨20, some 11⟩ := by
  have hopening : emptyClosing.opening ≠ [] := by decide
  have hruns : Walk.Runs emptyClosing letterThenChoice 3 (.start 1) (some ⟨3, none⟩) :=
    .step rfl (.step rfl (.step rfl (.ended rfl)))
  have htag : openTag? (letterThenChoice.drop 1) = some ⟨.conditional, ['a'], 9⟩ := by decide
  have hfound : conditionalMarkers.matchFrom letterThenChoice 1 = some ⟨20, some 11⟩ := by decide
  obtain ⟨hends, hwalk, hsliced⟩ := matches_safe_to_slice emptyClosing letterThenChoice 1
  obtain ⟨-, -, hin⟩ := hwalk 3 _ hruns
  exact ⟨hopening, hends.2 (.inl hopening), hruns, hin _ rfl, htag, hfound, hsliced _ _ htag rfl hfound⟩

end Stencil
