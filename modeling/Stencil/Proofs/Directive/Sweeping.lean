import Stencil.Proofs.Directive.Descent

/-!
# Conditionals resolved in place

A turn over conditionals can be done in place: a cursor goes over the text that is being rewritten.

* **Sweeps** (`Sweep`, `Sweep.step`): at the next opening tag the cursor passes a closed loop, steps into a tag that is
  left as it is, or a conditional collapses to one of its branches and the cursor goes on after it.
* **One step** (`advances_of_step`) deletes characters, sixteen or more for each collapse, and the cursor comes nearer
  to the end of the text, whatever the text becomes.
* **A whole sweep** ends (`exists_runs`), and leaves what `resolveConditionals` makes of the text (`Runs.text_eq`).
-/

namespace Stencil

open Text (pieces)

/-! ## The loop -/

/-- A turn on its way: the text as it is by now, the place up to which it is done, and how many conditionals have
collapsed. -/
structure Sweep where
  text : Text
  pos : Nat
  collapsed : Nat

/-- The first opening tag from the head of a text on, with its distance. -/
def nextTag? : Text → Option (Nat × OpenTag)
  | [] => none
  | c :: cs =>
    match openTag? (c :: cs) with
    | some tag => some (0, tag)
    | none => (nextTag? cs).map fun (distance, tag) => (distance + 1, tag)

/-- The branch of a conditional whose first branch starts at a place of a text. -/
def branchFrom (t : Text) (first : Nat) (found : TagMatch) (holds : Bool) : Text :=
  match found.elsePos with
  | some pos =>
    if holds then t.slice first pos else t.slice (pos + conditionalMarkers.alternativeLength) found.closePos
  | none => if holds then t.slice first found.closePos else []

namespace Sweep

/-- The start of a turn over a text. -/
def start (t : Text) : Sweep := ⟨t, 0, 0⟩

/-- Puts a branch in the place of a conditional, and goes on after it. -/
def collapse (s : Sweep) (start : Nat) (tag : OpenTag) (found : TagMatch) (holds : Bool) : Sweep :=
  let chosen := branchFrom s.text (start + tag.width) found holds
  ⟨s.text.take start ++ (chosen ++ s.text.drop (found.closePos + conditionalMarkers.closing.length)),
    start + chosen.length, s.collapsed + 1⟩

/-- What a turn does at an opening tag. -/
def meet (withElse : Bool) (holds : Text → Bool) (s : Sweep) (start : Nat) (tag : OpenTag) : Sweep :=
  let inside : Sweep := { s with pos := start + tag.width }
  match tag.kind with
  | .loop =>
    match loopMarkers.matchFrom s.text start with
    | some found => { s with pos := found.closePos + loopMarkers.closing.length }
    | none => inside
  | .conditional =>
    match conditionalMarkers.matchFrom s.text start with
    | some found => if found.elsePos.isSome = withElse then s.collapse start tag found (holds tag.name) else inside
    | none => inside

/-- One step of a turn, to the next opening tag. Without any the turn has ended. -/
def step (withElse : Bool) (holds : Text → Bool) (s : Sweep) : Option Sweep :=
  (nextTag? (s.text.drop s.pos)).map fun (distance, tag) => s.meet withElse holds (s.pos + distance) tag

/-- A turn takes so many steps to its end. -/
inductive Runs (withElse : Bool) (holds : Text → Bool) : Nat → Sweep → Sweep → Prop
  | ended {s : Sweep} : s.step withElse holds = none → Runs withElse holds 0 s s
  | step {n : Nat} {s s' last : Sweep} : s.step withElse holds = some s' → Runs withElse holds n s' last →
    Runs withElse holds (n + 1) s last

end Sweep

/-! ## The next tag -/

section NextTag

variable {t : Text} {n : Nat} {tag : OpenTag}

/-- No opening tag starts in the first of two texts. -/
def Clear (u v : Text) : Prop := ∀ a b, u = a ++ b → b ≠ [] → openTag? (b ++ v) = none

theorem clear_nil (v : Text) : Clear [] v := fun _ _ hab hb => absurd (List.append_eq_nil_iff.1 hab.symm).2 hb

theorem Clear.cons {c : Point} {u v : Text} (hc : openTag? (c :: (u ++ v)) = none) (h : Clear u v) :
    Clear (c :: u) v := by
  intro a b hab hb
  cases a with
  | nil =>
    obtain rfl : c :: u = b := hab
    exact hc
  | cons x a =>
    obtain ⟨-, hab⟩ := List.cons.inj hab
    exact h a b hab hb

theorem clear_of_nextTag?_eq_none : ∀ {t : Text}, nextTag? t = none → Clear t []
  | [], _ => clear_nil []
  | c :: cs, h => by
    rw [nextTag?] at h
    split at h
    · cases h
    · rename_i hnone
      have hrest := clear_of_nextTag?_eq_none (Option.map_eq_none_iff.1 h)
      exact hrest.cons (by rwa [List.append_nil])

/-- The next tag is after a text in which none starts. -/
theorem nextTag?_eq_some : ∀ {t : Text} {n : Nat}, nextTag? t = some (n, tag) →
    ∃ u v, t = u ++ v ∧ u.length = n ∧ Clear u v ∧ openTag? v = some tag
  | [], _, h => by cases h
  | c :: cs, n, h => by
    rw [nextTag?] at h
    split at h
    · rename_i found htag
      cases h
      exact ⟨[], c :: cs, rfl, rfl, clear_nil _, htag⟩
    · rename_i hnone
      obtain ⟨⟨m, found⟩, hm, heq⟩ := Option.map_eq_some_iff.1 h
      cases heq
      obtain ⟨u, v, rfl, rfl, hclear, htag⟩ := nextTag?_eq_some hm
      exact ⟨c :: u, v, rfl, rfl, hclear.cons hnone, htag⟩

/-- An opening tag is of its kind, and reads as one of that kind. -/
theorem openTagOf?_of_openTag? (h : openTag? t = some tag) : openTagOf? tag.kind t = some tag := by
  rcases Option.or_eq_some_iff.1 h with htag | ⟨-, htag⟩
  · obtain ⟨u, -, hkind, -⟩ := openTagOf?_eq_some_iff.1 htag
    rw [hkind] at htag ⊢
    exact htag
  · obtain ⟨u, -, hkind, -⟩ := openTagOf?_eq_some_iff.1 htag
    rw [hkind] at htag ⊢
    exact htag

/-- An opening tag has two pairs of braces, the sign and the word of its kind, a space and a name. -/
theorem nine_le_width {kind : TagKind} (h : openTagOf? kind t = some tag) : 9 ≤ tag.width := by
  obtain ⟨u, ⟨inside, ⟨hname, before, after, -, -, rfl⟩, rfl⟩, htag, -⟩ := openTagOf?_eq_some_iff.1 h
  obtain ⟨c, cs, hcons, -⟩ := hname.head
  rw [htag, hcons]
  have hword : 2 ≤ kind.word.length := by cases kind <;> decide
  simp only [List.length_cons, List.length_append, List.length_nil]
  omega

/-- A tag is of one kind. -/
theorem openTagOf?_of_other {kind kind' : TagKind} (h : openTagOf? kind' t = some tag)
    (hkind : kind ≠ kind') : openTagOf? kind t = none := by
  obtain ⟨u, hu, -, s, rfl⟩ := openTagOf?_eq_some_iff.1 h
  exact openTagOf?_of_writes hkind hu s

end NextTag

/-! ## What a turn writes -/

section Writing

variable {withElse : Bool} {holds : Text → Bool} {u v : Text} {tag : OpenTag}

theorem block?_of_no_tag {t : Text} (h : openTag? t = none) : block? withElse t = none := by
  obtain ⟨hconditional, hloop⟩ := Option.or_eq_none_iff.1 h
  simp [block?, loop?, conditional?, hconditional, hloop]

/-- A turn finds a conditional that belongs to it. -/
theorem block?_of_closed {t : Text} {found : TagMatch} (h : ClosedTag .conditional t tag found)
    (helse : found.elsePos.isSome = withElse) : block? withElse t = some (.choice (conditionalOf t tag found),
      found.closePos + conditionalMarkers.closing.length) := by
  have hread := conditional?_eq_some_iff.2 ⟨tag, found, h, rfl, rfl⟩
  exact block?_eq_some_iff.2 (.inr ⟨_, rfl, by simpa [conditionalOf] using helse, hread⟩)

/-- A turn finds nothing where there is no closed loop and no conditional that belongs to it. -/
theorem block?_eq_none_iff {t : Text} : block? withElse t = none ↔ loop? t = none ∧
    ∀ tag found, ClosedTag .conditional t tag found → found.elsePos.isSome ≠ withElse := by
  rw [Option.eq_none_iff_forall_ne_some]
  constructor
  · intro h
    refine ⟨Option.eq_none_iff_forall_ne_some.2 fun (l, width) hl => ?_, fun tag found hclosed helse => ?_⟩
    · exact h (_, width) (block?_eq_some_iff.2 (.inl ⟨rfl, l, hl⟩))
    · exact h (_, _) (block?_of_closed hclosed helse)
  · rintro ⟨hloop, hconditional⟩ ⟨b, width⟩ hb
    rcases block?_eq_some_iff.1 hb with ⟨-, l, hl⟩ | ⟨c, -, helse, hc⟩
    · rw [hloop] at hl
      cases hl
    · obtain ⟨tag, found, hclosed, rfl, -⟩ := conditional?_eq_some_iff.1 hc
      exact hconditional tag found hclosed (by simpa [conditionalOf] using helse)

/-- A turn finds nothing at the tag of a loop that is not closed. -/
theorem block?_of_unclosed_loop {t : Text} (h : openTagOf? .loop t = some tag)
    (hfound : loopMarkers.matchFrom t 0 = none) : block? withElse t = none := by
  have hother : openTagOf? .conditional t = none := openTagOf?_of_other h (by decide)
  refine block?_eq_none_iff.2 ⟨by simp [loop?, hfound], fun _ _ hclosed => ?_⟩
  rw [hclosed.opening] at hother
  cases hother

/-- A turn finds nothing at the tag of a conditional that is not closed or does not belong to it. -/
theorem block?_of_left_conditional {t : Text} (h : openTagOf? .conditional t = some tag)
    (hfound : ∀ found, conditionalMarkers.matchFrom t 0 = some found → found.elsePos.isSome ≠ withElse) :
    block? withElse t = none := by
  have hother : openTagOf? .loop t = none := openTagOf?_of_other h (by decide)
  exact block?_eq_none_iff.2 ⟨by simp [loop?, hother], fun _ found hclosed => hfound found hclosed.matched⟩

/-- What stands before the next tag stays. -/
theorem resolveConditionals_clear (h : Clear u v) :
    resolveConditionals withElse holds (u ++ v) = u ++ resolveConditionals withElse holds v := by
  have hpieces : pieces (block? withElse) (u ++ v) = u.map .char ++ pieces (block? withElse) v :=
    Text.pieces_chars_append u v fun a b hab hb => block?_of_no_tag (h a b hab hb)
  rw [resolveConditionals, Text.replace, hpieces, List.flatMap_append, List.flatMap_map]
  exact congrArg (· ++ _) (List.flatMap_singleton' u)

/-- A tag that belongs to no block stays, and the turn goes on inside it. -/
theorem resolveConditionals_inside (htag : openTag? v = some tag) (h : block? withElse v = none) :
    ∃ x after, v = x ++ after ∧ x.length = tag.width ∧
      resolveConditionals withElse holds v = x ++ resolveConditionals withElse holds after := by
  obtain ⟨x, ⟨inside, hinside, rfl⟩, hwidth, after, rfl⟩ := openTagOf?_eq_some_iff.1 (openTagOf?_of_openTag? htag)
  have hbraces : Text.BraceFree ('#' :: (tag.kind.word ++ Point.char ' ' :: inside)) := by
    have hword : Text.BraceFree ('#' :: (tag.kind.word ++ [Point.char ' '])) := by cases tag.kind <;> decide
    intro c hc
    have hc' : c ∈ Point.char '#' :: (tag.kind.word ++ [Point.char ' ']) ∨ c ∈ inside := by simpa [or_assoc] using hc
    exact hc'.elim (hword c) (hinside.braceFree setsOff_space c)
  refine ⟨_, after, rfl, (congrArg OpenTag.width hwidth).symm, ?_⟩
  have hpieces := Text.pieces_tag_append (Markup.braced_block? withElse) hbraces h
  rw [resolveConditionals, Text.replace, List.cons_append, List.cons_append, List.cons_append, hpieces,
    List.flatMap_append, List.flatMap_map]
  exact congrArg (· ++ _) (List.flatMap_singleton' _)

/-- A block is written, and the turn goes on after it. -/
theorem resolveConditionals_block {b : Block} {width : Nat} (h : block? withElse v = some (b, width)) :
    resolveConditionals withElse holds v
      = b.resolve holds ++ resolveConditionals withElse holds (v.drop width) := by
  obtain ⟨hpos, hlast⟩ := (ended_block? withElse).last_eq h
  obtain ⟨hlt, -⟩ := List.getElem?_eq_some_iff.1 hlast
  have hne : v.take width ≠ [] := by
    rw [← List.length_pos_iff, List.length_take]
    omega
  have hlength : (v.take width).length = width := List.length_take_of_le (by omega)
  have hread : block? withElse (v.take width ++ v.drop width) = some (b, (v.take width).length) := by
    rw [List.take_append_drop, hlength]
    exact h
  have hpieces := Text.pieces_item_append hne hread
  rw [List.take_append_drop] at hpieces
  rw [resolveConditionals, Text.replace, hpieces]
  rfl

end Writing

/-! ## One step -/

section Step

variable {withElse : Bool} {holds : Text → Bool} {s s' : Sweep}

/-- What a step does: it passes some text, or it deletes sixteen or more characters of a text and passes what is left of
it. The turn over the rest goes on as if what is passed were not there. -/
inductive Sweep.Advances (withElse : Bool) (holds : Text → Bool) : Sweep → Sweep → Prop
  | passed {before x after : Text} {n : Nat} : 9 ≤ x.length →
    resolveConditionals withElse holds (x ++ after) = x ++ resolveConditionals withElse holds after →
    Advances withElse holds ⟨before ++ (x ++ after), before.length, n⟩
      ⟨before ++ (x ++ after), (before ++ x).length, n⟩
  | collapsed {before x y after : Text} {n : Nat} : y.Sublist x → y.length + 16 ≤ x.length →
    resolveConditionals withElse holds (x ++ after) = y ++ resolveConditionals withElse holds after →
    Advances withElse holds ⟨before ++ (x ++ after), before.length, n⟩
      ⟨before ++ (y ++ after), (before ++ y).length, n + 1⟩

/-- A slice of what stands after a text. -/
theorem Text.slice_shift (a t : Text) (first last : Nat) :
    Text.slice (a ++ t) (first + a.length) (last + a.length) = t.slice first last := by
  rw [Text.slice, Text.slice, Nat.add_comm first, Nat.add_comm last, List.take_length_add_append,
    List.drop_length_add_append]

/-- A place after the closing tag, counted from further before. -/
theorem TagMatch.shift_closePos_add (found : TagMatch) (k n : Nat) :
    (found.shift k).closePos + n = k + (found.closePos + n) := by
  rw [TagMatch.shift, Nat.add_comm found.closePos, Nat.add_assoc]

/-- The branch of a conditional does not depend on what stands before it. -/
theorem branchFrom_shift (a t : Text) (tag : OpenTag) (found : TagMatch) (b : Bool) :
    branchFrom (a ++ t) (a.length + tag.width) (found.shift a.length) b = (conditionalOf t tag found).branch b := by
  have hfirst : a.length + tag.width = tag.width + a.length := Nat.add_comm _ _
  have hsecond : ∀ pos, pos + a.length + conditionalMarkers.alternativeLength
      = pos + conditionalMarkers.alternativeLength + a.length := fun pos => Nat.add_right_comm _ _ _
  cases hpos : found.elsePos <;> cases b <;>
    simp [branchFrom, TagMatch.shift, conditionalOf, Conditional.branch, hpos, hfirst, hsecond, Text.slice_shift]

/-- A branch is a part of the conditional, without its two tags. -/
theorem branch_sublist {t : Text} {tag : OpenTag} {found : TagMatch} (h : ClosedTag .conditional t tag found)
    (b : Bool) : ((conditionalOf t tag found).branch b).Sublist
        (t.take (found.closePos + conditionalMarkers.closing.length)) ∧
      ((conditionalOf t tag found).branch b).length + 16 ≤ found.closePos + conditionalMarkers.closing.length := by
  have hwidth := nine_le_width h.opening
  have htag := h.tag_width_le
  have hsplit := h.elsePos_getD_le
  have hclosing : conditionalMarkers.closing.length = 7 := rfl
  have hslice : ∀ first last, tag.width ≤ first → last ≤ found.closePos →
      (t.slice first last).Sublist (t.take (found.closePos + conditionalMarkers.closing.length)) ∧
      (t.slice first last).length + 16 ≤ found.closePos + conditionalMarkers.closing.length := by
    intro first last hfirst hlast
    refine ⟨(List.drop_sublist _ _).trans (List.take_sublist_take_left (by omega)), ?_⟩
    have hle : (t.slice first last).length ≤ last - first := by
      rw [Text.slice, List.length_drop, List.length_take]
      omega
    omega
  cases b with
  | true => exact hslice _ _ (Nat.le_refl _) hsplit
  | false =>
    cases hpos : found.elsePos with
    | none =>
      simp only [Conditional.branch, conditionalOf, hpos, Bool.false_eq_true, if_false, Option.map_none,
        Option.getD_none]
      exact ⟨List.nil_sublist _, by simp only [List.length_nil]; omega⟩
    | some pos =>
      have hafter := h.tag_width_le_elsePos pos hpos
      simp only [Conditional.branch, conditionalOf, hpos, Bool.false_eq_true, if_false, Option.map_some,
        Option.getD_some]
      exact hslice _ _ (by omega) (Nat.le_refl _)

variable {u v x y after before : Text} {n : Nat}

theorem Sweep.Advances.of_passed (h : Clear u v) (hv : v = x ++ after) (hx : 9 ≤ x.length)
    (hres : resolveConditionals withElse holds v = x ++ resolveConditionals withElse holds after) :
    Advances withElse holds ⟨before ++ (u ++ v), before.length, n⟩
      ⟨before ++ (u ++ v), (before ++ u).length + x.length, n⟩ := by
  subst hv
  have hstep : Advances withElse holds ⟨before ++ ((u ++ x) ++ after), before.length, n⟩
      ⟨before ++ ((u ++ x) ++ after), (before ++ (u ++ x)).length, n⟩ := by
    refine .passed (by rw [List.length_append]; omega) ?_
    rw [List.append_assoc, resolveConditionals_clear h, hres, List.append_assoc]
  simpa only [List.append_assoc, List.length_append, Nat.add_assoc] using hstep

theorem Sweep.Advances.of_collapsed (h : Clear u v) (hv : v = x ++ after) (hsub : y.Sublist x)
    (hlen : y.length + 16 ≤ x.length)
    (hres : resolveConditionals withElse holds v = y ++ resolveConditionals withElse holds after) :
    Advances withElse holds ⟨before ++ (u ++ v), before.length, n⟩
      ⟨(before ++ u) ++ (y ++ after), (before ++ u).length + y.length, n + 1⟩ := by
  subst hv
  have hstep : Advances withElse holds ⟨before ++ ((u ++ x) ++ after), before.length, n⟩
      ⟨before ++ ((u ++ y) ++ after), (before ++ (u ++ y)).length, n + 1⟩ := by
    refine .collapsed ((List.Sublist.refl u).append hsub) (by simp only [List.length_append]; omega) ?_
    rw [List.append_assoc, resolveConditionals_clear h, hres, List.append_assoc]
  simpa only [List.append_assoc, List.length_append, Nat.add_assoc] using hstep

/-- A turn advances inside a tag that belongs to no block. -/
theorem advances_inside (hclear : Clear u v) (htag : openTag? v = some tag) (h : block? withElse v = none) :
    Sweep.Advances withElse holds ⟨before ++ (u ++ v), before.length, n⟩
      ⟨before ++ (u ++ v), (before ++ u).length + tag.width, n⟩ := by
  obtain ⟨x, after, hv, hwidth, hres⟩ := resolveConditionals_inside htag h
  rw [← hwidth]
  have hnine := nine_le_width (openTagOf?_of_openTag? htag)
  exact .of_passed hclear hv (by omega) hres

/-- A turn advances over a closed loop. -/
theorem advances_loop {l : Loop} {width : Nat} (hclear : Clear u v) (h : loop? v = some (l, width)) :
    Sweep.Advances withElse holds ⟨before ++ (u ++ v), before.length, n⟩
      ⟨before ++ (u ++ v), (before ++ u).length + width, n⟩ := by
  have hblock : block? withElse v = some (.loop (v.take width), width) := block?_eq_some_iff.2 (.inl ⟨rfl, l, h⟩)
  have hlength : (v.take width).length = width := List.length_take_of_le (ended_loop?.width_le h)
  obtain ⟨tag, found, hclosed, -, hwidth⟩ := loop?_eq_some_iff.1 h
  have hnine := nine_le_width hclosed.opening
  have htag := hclosed.tag_width_le
  have hstep : Sweep.Advances withElse holds ⟨before ++ (u ++ v), before.length, n⟩
      ⟨before ++ (u ++ v), (before ++ u).length + (v.take width).length, n⟩ :=
    .of_passed hclear (List.take_append_drop width v).symm (by omega) (resolveConditionals_block hblock)
  rwa [hlength] at hstep

/-- A turn advances over the branch that is put in the place of a conditional. -/
theorem advances_collapse {found : TagMatch} (hclear : Clear u v) (h : ClosedTag .conditional v tag found)
    (helse : found.elsePos.isSome = withElse) :
    Sweep.Advances withElse holds ⟨before ++ (u ++ v), before.length, n⟩
      (Sweep.collapse ⟨before ++ (u ++ v), before.length, n⟩ (before ++ u).length tag
        (found.shift (before ++ u).length) (holds tag.name)) := by
  obtain ⟨hsub, hlen⟩ := branch_sublist h (holds tag.name)
  have hstep : Sweep.Advances withElse holds ⟨before ++ (u ++ v), before.length, n⟩
      ⟨(before ++ u) ++ ((conditionalOf v tag found).branch (holds tag.name) ++
          v.drop (found.closePos + conditionalMarkers.closing.length)),
        (before ++ u).length + ((conditionalOf v tag found).branch (holds tag.name)).length, n + 1⟩ :=
    .of_collapsed hclear (List.take_append_drop _ v).symm hsub (by rwa [List.length_take_of_le h.width_le])
      (resolveConditionals_block (block?_of_closed h helse))
  rw [Sweep.collapse, ← List.append_assoc, branchFrom_shift, TagMatch.shift_closePos_add, List.take_left,
    List.drop_length_add_append]
  rwa [← List.append_assoc] at hstep

/-- A turn advances at every opening tag. -/
theorem advances_meet (hclear : Clear u v) (htag : openTag? v = some tag) :
    Sweep.Advances withElse holds ⟨before ++ (u ++ v), before.length, n⟩
      (Sweep.meet withElse holds ⟨before ++ (u ++ v), before.length, n⟩ (before ++ u).length tag) := by
  have hopen := openTagOf?_of_openTag? htag
  have hmatch : ∀ m : Markers, m.matchFrom (before ++ (u ++ v)) (before ++ u).length
      = (m.matchFrom v 0).map (·.shift (before ++ u).length) := fun m => by
    rw [← List.append_assoc, Markers.matchFrom_shift]
  rw [Sweep.meet]
  cases hkind : tag.kind with
  | loop =>
    rw [hkind] at hopen
    simp only [hmatch]
    cases hfound : loopMarkers.matchFrom v 0 with
    | none => exact advances_inside hclear htag (block?_of_unclosed_loop hopen hfound)
    | some found =>
      have hread := loop?_eq_some_iff.2 ⟨tag, found, ⟨hopen, hfound⟩, rfl, rfl⟩
      simp only [Option.map_some, TagMatch.shift_closePos_add]
      exact advances_loop hclear hread
  | conditional =>
    rw [hkind] at hopen
    simp only [hmatch]
    cases hfound : conditionalMarkers.matchFrom v 0 with
    | none =>
      refine advances_inside hclear htag (block?_of_left_conditional hopen fun found' hfound' => ?_)
      rw [hfound] at hfound'
      cases hfound'
    | some found =>
      have hshift : (found.shift (before ++ u).length).elsePos.isSome = found.elsePos.isSome := by
        simp [TagMatch.shift]
      simp only [Option.map_some, hshift]
      split
      · rename_i helse
        exact advances_collapse hclear ⟨hopen, hfound⟩ helse
      · rename_i helse
        refine advances_inside hclear htag (block?_of_left_conditional hopen fun found' hfound' => ?_)
        rw [hfound] at hfound'
        cases hfound'
        exact helse

/-- **One step** of a turn advances. -/
theorem advances_of_step (h : s.step withElse holds = some s') : s.Advances withElse holds s' := by
  obtain ⟨⟨distance, tag⟩, hnext, rfl⟩ := Option.map_eq_some_iff.1 h
  obtain ⟨u, v, hdrop, rfl, hclear, htag⟩ := nextTag?_eq_some hnext
  obtain ⟨text, pos, n⟩ := s
  replace hdrop : text.drop pos = u ++ v := hdrop
  obtain ⟨before, rfl, rfl⟩ : ∃ before, text = before ++ (u ++ v) ∧ pos = before.length := by
    have hpos : pos ≤ text.length := by
      by_contra hlt
      rw [List.drop_eq_nil_of_le (by omega)] at hdrop
      rw [(List.append_eq_nil_iff.1 hdrop.symm).2] at htag
      cases htag
    refine ⟨text.take pos, ?_, (List.length_take_of_le hpos).symm⟩
    rw [← hdrop, List.take_append_drop]
  change Sweep.Advances withElse holds _ (Sweep.meet withElse holds _ (before.length + u.length) tag)
  rw [← List.length_append]
  exact advances_meet hclear htag

end Step

/-! ## Whole sweeps -/

section Whole

variable {withElse : Bool} {holds : Text → Bool} {n : Nat} {s s' last : Sweep}

namespace Sweep

/-- The number of characters that a turn has not come to. -/
def left (s : Sweep) : Nat := s.text.length - s.pos

/-- What a turn makes of its text, where what it has passed stays as it is. -/
def turned (withElse : Bool) (holds : Text → Bool) (s : Sweep) : Text :=
  s.text.take s.pos ++ resolveConditionals withElse holds (s.text.drop s.pos)

/-- Either nothing collapses and the text stays, or one conditional collapses and takes sixteen characters or more with
it. -/
theorem Advances.collapsed_or (h : s.Advances withElse holds s') :
    s'.text = s.text ∧ s'.collapsed = s.collapsed ∨
      s'.text.length + 16 ≤ s.text.length ∧ s'.collapsed = s.collapsed + 1 := by
  cases h with
  | passed _ _ => exact .inl ⟨rfl, rfl⟩
  | collapsed _ hlen _ =>
    refine .inr ⟨?_, rfl⟩
    simp only [List.length_append]
    omega

theorem Advances.sublist (h : s.Advances withElse holds s') : s'.text.Sublist s.text := by
  cases h with
  | passed _ _ => exact .refl _
  | collapsed hsub _ _ => exact (List.Sublist.refl _).append (hsub.append (.refl _))

/-- The cursor comes nearer to the end, whether or not the text gets shorter. -/
theorem Advances.left_lt (h : s.Advances withElse holds s') : s'.left + 9 ≤ s.left := by
  cases h with
  | passed hx _ =>
    simp only [left, List.length_append]
    omega
  | collapsed _ hlen _ =>
    simp only [left, List.length_append]
    omega

theorem Advances.turned_eq (h : s.Advances withElse holds s') :
    s'.turned withElse holds = s.turned withElse holds := by
  cases h with
  | passed _ hres =>
    simp only [turned, List.take_left, List.drop_left, hres]
    rw [← List.append_assoc, List.take_left, List.drop_left, List.append_assoc]
  | collapsed _ _ hres =>
    simp only [turned, List.take_left, List.drop_left, hres]
    rw [← List.append_assoc, List.take_left, List.drop_left, List.append_assoc]

/-- A turn that has ended is over the text that it makes. -/
theorem turned_of_ended (h : s.step withElse holds = none) : s.turned withElse holds = s.text := by
  have hclear := clear_of_nextTag?_eq_none (Option.map_eq_none_iff.1 h)
  have hrest : resolveConditionals withElse holds (s.text.drop s.pos ++ [])
      = s.text.drop s.pos ++ resolveConditionals withElse holds [] := resolveConditionals_clear hclear
  have hnil : resolveConditionals withElse holds [] = [] := rfl
  rw [hnil, List.append_nil] at hrest
  rw [turned, hrest, List.take_append_drop]

/-- A turn ends from wherever it is. -/
theorem exists_runs (withElse : Bool) (holds : Text → Bool) (s : Sweep) : ∃ n last, s.Runs withElse holds n last := by
  induction hleft : s.left using Nat.strongRecOn generalizing s with
  | ind left ih =>
    subst hleft
    cases hstep : s.step withElse holds with
    | none => exact ⟨0, s, .ended hstep⟩
    | some s' =>
      have hlt := (advances_of_step hstep).left_lt
      obtain ⟨n, last, hruns⟩ := ih s'.left (by omega) s' rfl
      exact ⟨n + 1, last, .step hstep hruns⟩

theorem Runs.text_eq (h : s.Runs withElse holds n last) : last.text = s.turned withElse holds := by
  induction h with
  | ended hend => exact (turned_of_ended hend).symm
  | step hstep _ ih => rw [ih, (advances_of_step hstep).turned_eq]

theorem Runs.sublist (h : s.Runs withElse holds n last) : last.text.Sublist s.text := by
  induction h with
  | ended _ => exact .refl _
  | step hstep _ ih => exact ih.trans (advances_of_step hstep).sublist

/-- A run has a step for nine characters at the most. -/
theorem Runs.steps_le (h : s.Runs withElse holds n last) : 9 * n ≤ s.left := by
  induction h with
  | ended _ => exact Nat.zero_le _
  | step hstep _ ih =>
    have hlt := (advances_of_step hstep).left_lt
    omega

/-- The conditionals that collapse take sixteen characters or more each, and without any the text stays. -/
theorem Runs.collapsed_le (h : s.Runs withElse holds n last) :
    last.text.length + 16 * last.collapsed ≤ s.text.length + 16 * s.collapsed ∧
      (last.collapsed = s.collapsed → last.text = s.text) ∧ s.collapsed ≤ last.collapsed := by
  induction h with
  | ended _ => exact ⟨Nat.le_refl _, fun _ => rfl, Nat.le_refl _⟩
  | step hstep _ ih =>
    obtain ⟨hlen, hsame, hle⟩ := ih
    rcases (advances_of_step hstep).collapsed_or with ⟨htext, hcount⟩ | ⟨hshort, hcount⟩
    · rw [htext, hcount] at hlen hsame
      exact ⟨hlen, hsame, by omega⟩
    · exact ⟨by omega, fun heq => by omega, by omega⟩

theorem turned_start (withElse : Bool) (holds : Text → Bool) (t : Text) :
    (start t).turned withElse holds = resolveConditionals withElse holds t := rfl

end Sweep

/-- A turn deletes characters. -/
theorem resolveConditionals_sublist (withElse : Bool) (holds : Text → Bool) (t : Text) :
    (resolveConditionals withElse holds t).Sublist t := by
  obtain ⟨n, last, hruns⟩ := Sweep.exists_runs withElse holds (.start t)
  have hsub := hruns.sublist
  rwa [hruns.text_eq, Sweep.turned_start] at hsub

/-- A turn that changes a text deletes sixteen characters or more. -/
theorem length_resolveConditionals_add_le {t : Text} (h : resolveConditionals withElse holds t ≠ t) :
    (resolveConditionals withElse holds t).length + 16 ≤ t.length := by
  obtain ⟨n, last, hruns⟩ := Sweep.exists_runs withElse holds (.start t)
  obtain ⟨hlen, hsame, -⟩ := hruns.collapsed_le
  rw [hruns.text_eq, Sweep.turned_start] at hlen hsame
  have hsome : last.collapsed ≠ (Sweep.start t).collapsed := fun heq => h (hsame heq)
  have hzero : (Sweep.start t).collapsed = 0 := rfl
  have htext : (Sweep.start t).text = t := rfl
  rw [htext] at hlen
  omega

end Whole

end Stencil
