import Stencil.Proofs.Directive.Entering
import Stencil.Proofs.Results
import Stencil.Proofs.Template.Guards

/-!
# Branches that are not taken

A document is written only if all values that it needs have a text. Which values are these?

* **Trees that evaluate** (`Markup.Evaluates`): the values that the evaluation shows have a text. Branches that are not
  taken do not count.
* **What is needed** (`fills_iff`): a template is resolved and filled exactly if the values that are held and those of
  the placeholders that are left have a text. A loop in a branch that is not taken may be entered before the branch is
  dropped, and then what it holds counts too.
* **When branches have no effect** (`untaken_branches_iff`): the templates that evaluate are rendered, for all loops
  that stand in at most one conditional of each kind, and not for all that stand in more.
-/

namespace Stencil

open Text (BraceFree)

/-! ## Answers and shown values -/

namespace Scope

variable {metadata : Metadata} {s : Scope} {f : Frame} {n : Text}

/-- Inside the loop, the fields of the element come before what the name means outside. -/
theorem shown?_enter_far (hr : reservedNames.contains n ≠ true) (hi : n ≠ indexName)
    (ht : ¬(n = thisName ∨ thisPoint.isPrefixOf n = true)) :
    (s.enter f.index f.item).shown? metadata n = (f.fields.get? n).or (s.shown? metadata n) := by
  rw [shown?_far hr hi ht, shown?_far hr hi ht]
  cases hf : f.fields.get? n <;> simp [fieldOrVariable?, enter, hf]

/-- What is held for a name is what its placeholder shows inside the loop. -/
theorem shown?_of_held {v : Value} (h : f.held? n = some v) :
    (s.enter f.index f.item).shown? metadata n = some v := by
  unfold Frame.held? at h
  split at h
  · cases h
  · rename_i hname
    obtain ⟨hr, hi⟩ := not_or.1 hname
    split at h
    · rename_i hthis
      rw [← Option.some.inj h, ← lookup_this (s := s) hthis, shown?, if_neg hr]
      simp only [enter, if_neg hi, if_pos hthis]
    · rename_i hthis
      rw [shown?_enter_far hr hi hthis, h, Option.some_or]

/-- A name that the element does not answer shows the same inside the loop and outside. -/
theorem shown?_of_not_answers (h : f.answers n = false) :
    (s.enter f.index f.item).shown? metadata n = s.shown? metadata n := by
  simp only [Frame.answers, Bool.or_eq_false_iff, decide_eq_false_iff_not, Option.isSome_eq_false_iff,
    Option.isNone_iff_eq_none] at h
  obtain ⟨hi, hheld⟩ := h
  by_cases hr : reservedNames.contains n = true
  · rw [shown?_reserved hr, shown?_reserved hr]
  · unfold Frame.held? at hheld
    rw [if_neg (not_or.2 ⟨hr, hi⟩)] at hheld
    split at hheld
    · cases hheld
    · rename_i hthis
      rw [shown?_enter_far hr hi hthis, hheld, Option.none_or]

end Scope

namespace Markup

/-! ## Trees that evaluate -/

/-- The placeholder shows a text. -/
def ShowsText (metadata : Metadata) (s : Scope) (n : Text) : Prop := ∃ t, evalPlace metadata s n = .ok t

/-- The tree evaluates to a text. -/
def Evaluates (metadata : Metadata) (s : Scope) (m : Markup) : Prop := ∃ t, m.eval metadata s = .ok t

section Evaluates

variable {metadata : Metadata} {s : Scope}

theorem evaluates_append (a b : Markup) :
    (a ++ b).Evaluates metadata s ↔ a.Evaluates metadata s ∧ b.Evaluates metadata s := by
  rw [Evaluates, eval_append]
  exact bind_ok_iff fun _ => map_ok_iff

theorem evaluates_text {t : Text} {rest : Markup} :
    (text t rest).Evaluates metadata s ↔ rest.Evaluates metadata s := map_ok_iff

theorem evaluates_place {n : Text} {rest : Markup} :
    (place n rest).Evaluates metadata s ↔ ShowsText metadata s n ∧ rest.Evaluates metadata s :=
  bind_ok_iff fun _ => map_ok_iff

theorem evaluates_when {n : Text} {yes rest : Markup} : (when n yes rest).Evaluates metadata s ↔
    (s.holds n = true → yes.Evaluates metadata s) ∧ rest.Evaluates metadata s := by
  refine (evaluates_append (when n yes done) rest).trans (and_congr_left' ?_)
  rw [Evaluates, eval_when]
  cases s.holds n with
  | true => exact ⟨fun h _ => h, fun h => h rfl⟩
  | false => exact ⟨fun _ h => absurd h Bool.false_ne_true, fun _ => ⟨[], rfl⟩⟩

theorem evaluates_choice {n : Text} {yes no rest : Markup} : (choice n yes no rest).Evaluates metadata s ↔
    (s.holds n = true → yes.Evaluates metadata s) ∧ (s.holds n = false → no.Evaluates metadata s) ∧
      rest.Evaluates metadata s := by
  rw [← and_assoc]
  refine (evaluates_append (choice n yes no done) rest).trans (and_congr_left' ?_)
  rw [Evaluates, eval_choice]
  cases s.holds n with
  | true => exact ⟨fun h => ⟨fun _ => h, fun hf => absurd hf.symm Bool.false_ne_true⟩, fun h => h.1 rfl⟩
  | false => exact ⟨fun h => ⟨fun ht => absurd ht Bool.false_ne_true, fun _ => h⟩, fun h => h.2 rfl⟩

theorem evaluates_each {n : Text} {body rest : Markup} : (each n body rest).Evaluates metadata s ↔
    (∀ p ∈ loopItems s n, body.Evaluates metadata (s.enter p.2 p.1)) ∧ rest.Evaluates metadata s :=
  bind_ok_iff (fun _ => map_ok_iff) |>.trans (and_congr_left' (mapM_ok_iff (loopItems s n)))

/-- The placeholders that are left of a tree that evaluates show texts. -/
theorem Evaluates.left {m : Markup} (h : m.Evaluates metadata s) : ∀ n ∈ m.left s, ShowsText metadata s n := by
  induction m generalizing s with
  | done => exact fun _ hn => absurd hn List.not_mem_nil
  | text t rest ih => exact ih (evaluates_text.1 h)
  | place name rest ih =>
    obtain ⟨hname, hrest⟩ := evaluates_place.1 h
    exact List.forall_mem_cons.2 ⟨hname, ih hrest⟩
  | when name yes rest ihy ih =>
    obtain ⟨hyes, hrest⟩ := evaluates_when.1 h
    refine List.forall_mem_append.2 ⟨fun n hn => ?_, ih hrest⟩
    split at hn
    · rename_i hholds
      exact ihy (hyes hholds) n hn
    · exact absurd hn List.not_mem_nil
  | choice name yes no rest ihy ihn ih =>
    obtain ⟨hyes, hno, hrest⟩ := evaluates_choice.1 h
    refine List.forall_mem_append.2 ⟨fun n hn => ?_, ih hrest⟩
    split at hn
    · rename_i hholds
      exact ihy (hyes hholds) n hn
    · rename_i hholds
      exact ihn (hno (Bool.eq_false_iff.2 hholds)) n hn
  | each name body rest ihb ih =>
    obtain ⟨hbody, hrest⟩ := evaluates_each.1 h
    refine List.forall_mem_append.2 ⟨fun n hn => ?_, ih hrest⟩
    obtain ⟨⟨item, index⟩, hitem, hn⟩ := List.mem_flatMap.1 hn
    obtain ⟨hn, hanswers⟩ := List.mem_filter.1 hn
    have hinside : ShowsText metadata (s.enter index item) n := ihb (hbody (item, index) hitem) n hn
    have hsame : (s.enter index item).shown? metadata n = s.shown? metadata n :=
      Scope.shown?_of_not_answers (f := ⟨index, item⟩) (Bool.not_eq_true' _ ▸ hanswers)
    rw [ShowsText, evalPlace, hsame] at hinside
    exact hinside

/-- What an element holds for a tree that evaluates has a text. -/
theorem Evaluates.answersPrint {body : Markup} {index : Nat} {item : Value}
    (h : body.Evaluates metadata (s.enter index item)) : body.AnswersPrint s ⟨index, item⟩ := by
  intro n hn v hv
  obtain ⟨t, ht⟩ := h.left n hn
  have hshown : (s.enter index item).shown? metadata n = some v := Scope.shown?_of_held hv
  rw [evalPlace, hshown] at ht
  exact ⟨t, ht⟩

/-- A flat tree evaluates if its placeholders show texts. -/
theorem Flat.evaluates_iff {m : Markup} (hm : m.Flat) :
    m.Evaluates metadata s ↔ ∀ n ∈ m.left s, ShowsText metadata s n := by
  induction m with
  | done => exact ⟨fun _ _ hn => absurd hn List.not_mem_nil, fun _ => ⟨[], rfl⟩⟩
  | text t rest ih => exact evaluates_text.trans (ih hm)
  | place n rest ih => exact evaluates_place.trans ((and_congr_right' (ih hm)).trans List.forall_mem_cons.symm)
  | when n yes rest _ _ => exact hm.elim
  | choice n yes no rest _ _ _ => exact hm.elim
  | each n body rest _ _ => exact hm.elim

end Evaluates

/-! ## Loops under conditionals -/

/-- Each loop stands, inside the body of the loop around it or else in the tree, in at most `a` conditionals with one
branch and `b` with two; the tree itself stands where `w` and `c` more of them are allowed. -/
def LoopsUnder (a b : Nat) : Markup → Nat → Nat → Prop
  | done, _, _ => True
  | text _ rest, w, c => rest.LoopsUnder a b w c
  | place _ rest, w, c => rest.LoopsUnder a b w c
  | when _ yes rest, 0, c => yes.LoopFree ∧ rest.LoopsUnder a b 0 c
  | when _ yes rest, w + 1, c => yes.LoopsUnder a b w c ∧ rest.LoopsUnder a b (w + 1) c
  | choice _ yes no rest, w, 0 => yes.LoopFree ∧ no.LoopFree ∧ rest.LoopsUnder a b w 0
  | choice _ yes no rest, w, c + 1 =>
    yes.LoopsUnder a b w c ∧ no.LoopsUnder a b w c ∧ rest.LoopsUnder a b w (c + 1)
  | each _ body rest, w, c => body.LoopsUnder a b a b ∧ rest.LoopsUnder a b w c

section LoopsUnder

variable {metadata : Metadata} {s : Scope} {a b : Nat}

/-- Conditionals that nest once at most stand around no others. -/
theorem loopsUnder_of_depth {m : Markup} {w c : Nat} (hm : m.depth ≤ 1) (hw : m.outerDepth ≤ w)
    (hc : m.outerDepth ≤ c) : m.LoopsUnder 1 1 w c := by
  induction m generalizing w c with
  | done => trivial
  | text t rest ih => exact ih hm hw hc
  | place n rest ih => exact ih hm hw hc
  | when n yes rest ihy ih =>
    simp only [depth, outerDepth, Nat.max_le] at hm hw hc
    obtain ⟨w, rfl⟩ := Nat.exists_eq_add_of_le' hw.1
    exact ⟨ihy hm.1.1 (by omega) (by omega), ih hm.1.2 (by omega) hc.2⟩
  | choice n yes no rest ihy ihn ih =>
    simp only [depth, outerDepth, Nat.max_le] at hm hw hc
    obtain ⟨c, rfl⟩ : ∃ k, c = k + 1 := Nat.exists_eq_add_of_le' (by omega)
    exact ⟨ihy hm.1.1.1 (by omega) (by omega), ihn hm.1.1.2 (by omega) (by omega), ih hm.1.2 hw.2 hc.2⟩
  | each n body rest ihb ih =>
    simp only [depth, Nat.max_le] at hm
    have hbody : body.outerDepth ≤ 1 := ((depth_le_iff body).1 hm.1).1
    exact ⟨ihb hm.1 hbody hbody, ih hm.2 hw hc⟩

/-- Where loops stand in one conditional of each kind at most, a tree that evaluates holds printable values only: the
branches that are not taken have been dropped when the loops are entered. -/
theorem Evaluates.heldPrint {m : Markup} (h : m.Evaluates metadata s) (ha : a ≤ 1) (hb : b ≤ 1) {w c : Nat}
    {single double : Bool} (hw : w ≤ 1) (hc : c ≤ 1) (hsingle : w = 1 → single = false)
    (hdouble : c = 1 → double = false) (hm : m.LoopsUnder a b w c) : m.HeldPrint single double s := by
  induction m generalizing s w c single double with
  | done => trivial
  | text t rest ih => exact ih (evaluates_text.1 h) hw hc hsingle hdouble hm
  | place n rest ih => exact ih (evaluates_place.1 h).2 hw hc hsingle hdouble hm
  | when n yes rest ihy ih =>
    obtain ⟨hyes, hrest⟩ := evaluates_when.1 h
    cases w with
    | zero => exact ⟨fun _ => heldPrint_of_loopFree hm.1, ih hrest hw hc hsingle hdouble hm.2⟩
    | succ w =>
      refine ⟨fun htaken => ?_, ih hrest hw hc hsingle hdouble hm.2⟩
      rw [hsingle (by omega)] at htaken
      have hholds : s.holds n = true := htaken.resolve_left Bool.false_ne_true
      exact ihy (hyes hholds) (by omega) hc (by omega) hdouble hm.1
  | choice n yes no rest ihy ihn ih =>
    obtain ⟨hyes, hno, hrest⟩ := evaluates_choice.1 h
    cases c with
    | zero =>
      exact ⟨fun _ => heldPrint_of_loopFree hm.1, fun _ => heldPrint_of_loopFree hm.2.1,
        ih hrest hw hc hsingle hdouble hm.2.2⟩
    | succ c =>
      have hfresh : double = false := hdouble (by omega)
      refine ⟨fun htaken => ?_, fun htaken => ?_, ih hrest hw hc hsingle hdouble hm.2.2⟩
      · rw [hfresh] at htaken
        exact ihy (hyes (htaken.resolve_left Bool.false_ne_true)) hw (by omega) hsingle (by omega) hm.1
      · rw [hfresh] at htaken
        exact ihn (hno (htaken.resolve_left Bool.false_ne_true)) hw (by omega) hsingle (by omega) hm.2.1
  | each n body rest ihb ih =>
    obtain ⟨hbody, hrest⟩ := evaluates_each.1 h
    refine ⟨fun p hp => ⟨?_, (hbody p hp).answersPrint⟩, ih hrest hw hc hsingle hdouble hm.2⟩
    exact ihb (hbody p hp) ha hb (fun _ => rfl) (fun _ => rfl) hm.1

end LoopsUnder

/-! ## Filling -/

/-- The text that a placeholder is filled with, if it is filled. -/
def placeAnswer (metadata : Metadata) (s : Scope) (n : Text) : Except TextFault (Option Text) :=
  match s.shown? metadata n with
  | some v => some <$> v.printed
  | none => .ok none

theorem substituteOne_eq (vars : Fields) (metadata : Metadata) (p : Placeholder) :
    substituteOne vars metadata p = (·.getD p.source) <$> placeAnswer metadata (.outer vars) p.name := by
  rw [substituteOne, placeholderValue?_eq, placeAnswer]
  cases (Scope.outer vars).shown? metadata p.name with
  | some v => simp only [Functor.map_map, Option.getD_some, id_map']
  | none => rfl

theorem evalPlace_eq (metadata : Metadata) (s : Scope) (n : Text) :
    evalPlace metadata s n = (·.getD (placeText n)) <$> placeAnswer metadata s n := by
  rw [evalPlace, placeAnswer]
  cases s.shown? metadata n with
  | some v => simp only [Functor.map_map, Option.getD_some, id_map']
  | none => rfl

/-- A written flat tree is filled with what it evaluates to. -/
theorem substitute_print {m : Markup} (hflat : m.Flat) (hm : m.Formed BraceFree) (vars : Fields) (metadata : Metadata) :
    substitute m.print vars metadata = m.eval metadata (.outer vars) := by
  rw [substitute, replaceM_placeholder?_print (substituteOne_eq vars metadata) hm]
  induction m with
  | done => rfl
  | text t rest ih =>
    rw [fillWith, eval, ← ih hflat hm.2]
    simp [print]
  | place n rest ih =>
    rw [fillWith, eval, ← ih hflat hm.2.2, evalPlace_eq]
    simp [print_filled]
  | when n yes rest _ _ => exact hflat.elim
  | choice n yes no rest _ _ _ => exact hflat.elim
  | each n body rest _ _ => exact hflat.elim

end Markup

open Markup

namespace Engine

/-! ## What a document needs -/

/-- The directives of a body are resolved and its placeholders filled, without a failure. -/
def Fills (budget : Nat) (body : Text) (vars : Fields) (metadata : Metadata) : Prop :=
  ∃ resolved ledger filled, (resolveDirectives budget body vars).run .empty = .ok resolved ledger ∧
    substitute resolved vars metadata = .ok filled

section Needed

variable {m : Markup} {vars : Fields} {metadata : Metadata} {budget : Nat}

/-- **What a document needs**: with at least as many passes as conditionals nest without crossing a loop, a template is
resolved and filled exactly if all values that are held have a text and all placeholders that are left show one. -/
theorem fills_iff (hm : m.WellFormed) (hb : max 1 m.depth ≤ budget) : Fills budget m.print vars metadata ↔
    m.HeldPrint false false (.outer vars) ∧ ∀ n ∈ m.left (.outer vars), ShowsText metadata (.outer vars) n := by
  obtain ⟨hpasses, hdepth⟩ := Nat.max_le.1 hb
  have hresolves := succeedsIff_resolve hpasses (depthAllowance m.print) m hm.braceFree hdepth
    (loopDepth_lt_depthAllowance m) (.outer vars)
  have hformed := ensures_braceFree fun l =>
    keepsBraceFree_resolve budget (depthAllowance m.print) (.outer vars) m l hm.braceFree
  -- what is left after the resolution is a flat tree, which is filled if it evaluates
  have hfilled : ∀ m' ledger, (resolve budget (depthAllowance m.print) (.outer vars) m).run .empty = .ok m' ledger →
      ((∃ filled, substitute m'.print vars metadata = .ok filled) ↔
        ∀ n ∈ m.left (.outer vars), ShowsText metadata (.outer vars) n) := by
    intro m' ledger hrun
    obtain ⟨hflat, hleft⟩ := hresolves.post .empty m' ledger hrun
    rw [substitute_print hflat (hformed .empty m' ledger hrun), ← hleft (.outer vars)]
    exact hflat.evaluates_iff
  unfold Fills
  rw [resolveDirectives_print hm.braceFree, ← hresolves.iff .empty]
  constructor
  · rintro ⟨resolved, ledger, filled, hres, hsub⟩
    obtain ⟨m', hrun, rfl⟩ := Resolve.run_map_eq_ok hres
    exact ⟨⟨m', ledger, hrun⟩, (hfilled m' ledger hrun).1 ⟨filled, hsub⟩⟩
  · rintro ⟨⟨m', ledger, hrun⟩, hshown⟩
    obtain ⟨filled, hsub⟩ := (hfilled m' ledger hrun).2 hshown
    exact ⟨m'.print, ledger, filled, by rw [Resolve.run_map, hrun], hsub⟩

/-- A template that evaluates is resolved and filled, if its loops stand in one conditional of each kind at most. -/
theorem fills_of_evaluates {a b : Nat} (hm : m.WellFormed) (hb : max 1 m.depth ≤ budget) (hone : a ≤ 1 ∧ b ≤ 1)
    (hloops : m.LoopsUnder a b a b) (h : m.Evaluates metadata (.outer vars)) :
    Fills budget m.print vars metadata := by
  refine (fills_iff hm hb).2 ⟨?_, h.left⟩
  exact h.heldPrint hone.1 hone.2 hone.1 hone.2 (fun _ => rfl) (fun _ => rfl) hloops

end Needed

/-! ## Loops in branches that are not taken -/

/-- A render of a template whose document is known. -/
structure Renders (e : Engine) (name : Text) (t : Template) (context : Context) (document : Text) : Prop where
  /-- Neither the directives nor the placeholders stop it. -/
  fills : Fills e.passes.val t.body (e.effectiveVariables t context.vars) context.metadata
  /-- It gives the document, unless a value can be taken for a token or more values are held than tokens can number. -/
  rendered {resolved : Text} {ledger : Ledger} : e.resolution t context = .ok resolved ledger →
    Slots.Unforged (e.effectiveVariables t context.vars) context.metadata →
    (∀ name v, (e.effectiveVariables t context.vars).get? name = some v → v.Counted) →
    ledger.slots.length ≤ digitBound → e.render name context = .ok document

section Untaken

variable {e : Engine} {name : Text} {t : Template} {context : Context} {m : Markup} {document : Text}

/-- What is resolved and filled is rendered to what it evaluates to. -/
theorem renders_of_fills (ht : e.registry.get? name = some t)
    (hpresent : missing t (e.effectiveVariables t context.vars) = []) (hbody : t.body = m.print) (hm : m.WellFormed)
    (hb : max 1 m.depth ≤ e.passes.val)
    (heval : m.eval context.metadata (.outer (e.effectiveVariables t context.vars)) = .ok document)
    (h : Fills e.passes.val t.body (e.effectiveVariables t context.vars) context.metadata) :
    e.Renders name t context document where
  fills := h
  rendered {resolved ledger} hres hslots hcounted hcount := by
    rw [resolution, hbody] at hres
    rw [render_eq ht hpresent, hbody]
    rcases run_fillBody_resolved hm hcounted hslots hb hres with
      ⟨fault, hfault, -⟩ | ⟨document', heval', hdocument⟩
    · rw [heval] at hfault
      cases hfault
    · rw [heval] at heval'
      cases heval'
      rcases hdocument with hdocument | ⟨hlong, -⟩
      · rw [hdocument]
      · exact absurd hcount (Nat.not_le.2 hlong)

/-- A loop over an element without a text. -/
def rowLoop : Markup := forEach "rows" (slot "this")

/-- The loop in two conditionals with one branch. The inner one, which is not taken, waits for the second pass. -/
def guardedTwice : Markup := onlyIf "shown" (onlyIf "ready" rowLoop)

/-- The loop in two conditionals with two branches. -/
def chosenTwice : Markup := ifElse "shown" (ifElse "ready" rowLoop done) done

/-- The element refuses to give its text. -/
def refusingContext : Context where
  vars := [(.str "shown".text, .bool true), (.str "ready".text, .bool false),
    (.str "rows".text, .list [.silent "no text".text])]
  metadata := ⟨.str "now".text, .str Metadata.defaultVersion, .str Metadata.defaultSource⟩

/-- A template that declares nothing. -/
def draft (m : Markup) : Template := ⟨"draft".text, .generic, m.print, []⟩

/-- An engine with one template. -/
def draftEngine (m : Markup) (budget : PassBudget) : Engine :=
  ⟨⟨⟨[((draft m).name, draft m)], by simp⟩, .empty⟩, budget⟩

theorem wellFormed_rowLoop : rowLoop.WellFormed := ⟨by decide, ⟨by decide, by decide, trivial⟩, trivial⟩

/-- Where the loop is entered, its element is held. -/
theorem not_heldPrint_rowLoop {single double : Bool} :
    ¬rowLoop.HeldPrint single double (.outer refusingContext.vars) := by
  intro h
  have hitems : loopItems (.outer refusingContext.vars) "rows".text = [(.silent "no text".text, 0)] := rfl
  have hanswers := (h.1 (.silent "no text".text, 0) (hitems ▸ List.mem_singleton_self _)).2
  obtain ⟨t, ht⟩ := hanswers thisName List.mem_cons_self _ rfl
  cases ht

/-- A template that enters the loop in a branch that is not taken evaluates to nothing and is not filled. -/
theorem not_renders_of_enters {budget : PassBudget} (hm : m.WellFormed) (hb : max 1 m.depth ≤ budget.val)
    (h : m.HeldPrint false false (.outer refusingContext.vars) → ∃ single double,
      rowLoop.HeldPrint single double (.outer refusingContext.vars)) :
    ¬(draftEngine m budget).Renders (draft m).name (draft m) refusingContext document := by
  intro hrenders
  obtain ⟨single, double, hloop⟩ := h ((fills_iff hm hb).1 hrenders.fills).1
  exact not_heldPrint_rowLoop hloop

/-- **When branches that are not taken have no effect.** The templates that evaluate are resolved, filled and rendered,
for all templates whose loops stand in at most `a` conditionals with one branch and `b` with two, exactly if neither
number is above one or there is one pass only. With more, a loop is entered while a conditional around it waits for the
next pass, and an element without a text stops the render although its branch is not taken. -/
theorem untaken_branches_iff (budget : PassBudget) (a b : Nat) :
    (∀ (e : Engine) (name : Text) (t : Template) (context : Context) (m : Markup) (document : Text),
      e.passes = budget → e.registry.get? name = some t → missing t (e.effectiveVariables t context.vars) = [] →
      t.body = m.print → m.WellFormed → m.depth ≤ budget.val → m.LoopsUnder a b a b →
      m.eval context.metadata (.outer (e.effectiveVariables t context.vars)) = .ok document →
      e.Renders name t context document) ↔ (a ≤ 1 ∧ b ≤ 1) ∨ budget.val = 1 := by
  constructor
  · intro h
    refine Decidable.or_iff_not_imp_right.2 fun hpasses => ?_
    have hbudget : 2 ≤ budget.val := by
      have hpositive := budget.property
      omega
    constructor
    · refine Nat.le_of_not_lt fun ha => ?_
      obtain ⟨a, rfl⟩ := Nat.exists_eq_add_of_le' ha
      have hm : guardedTwice.WellFormed := ⟨by decide, ⟨by decide, wellFormed_rowLoop, trivial⟩, trivial⟩
      have hb : max 1 guardedTwice.depth ≤ budget.val := hbudget
      have hloops : guardedTwice.LoopsUnder (a + 2) b (a + 2) b := ⟨⟨⟨trivial, trivial⟩, trivial⟩, trivial⟩
      have hrenders := h (draftEngine guardedTwice budget) (draft guardedTwice).name (draft guardedTwice)
        refusingContext guardedTwice [] rfl rfl rfl rfl hm hbudget hloops rfl
      exact not_renders_of_enters hm hb (fun hheld => ⟨_, _, (hheld.1 (.inr rfl)).1 (.inl rfl)⟩) hrenders
    · refine Nat.le_of_not_lt fun hb => ?_
      obtain ⟨b, rfl⟩ := Nat.exists_eq_add_of_le' hb
      have hm : chosenTwice.WellFormed :=
        ⟨by decide, ⟨by decide, wellFormed_rowLoop, trivial, trivial⟩, trivial, trivial⟩
      have hdepth : max 1 chosenTwice.depth ≤ budget.val := hbudget
      have hloops : chosenTwice.LoopsUnder a (b + 2) a (b + 2) :=
        ⟨⟨⟨trivial, trivial⟩, trivial, trivial⟩, trivial, trivial⟩
      have hrenders := h (draftEngine chosenTwice budget) (draft chosenTwice).name (draft chosenTwice)
        refusingContext chosenTwice [] rfl rfl rfl rfl hm hbudget hloops rfl
      exact not_renders_of_enters hm hdepth (fun hheld => ⟨_, _, (hheld.1 (.inr rfl)).1 (.inl rfl)⟩) hrenders
  · rintro hfew e name t context m document rfl ht hpresent hbody hm hdepth hloops heval
    have hb : max 1 m.depth ≤ e.passes.val := Nat.max_le.2 ⟨e.passes.property, hdepth⟩
    refine renders_of_fills ht hpresent hbody hm hb heval ?_
    rw [hbody]
    rcases hfew with hone | hpasses
    · exact fills_of_evaluates hm hb hone hloops ⟨document, heval⟩
    · -- with one pass conditionals do not nest, so that a loop stands in one conditional at most
      have hsingle : m.depth ≤ 1 := hpasses ▸ hdepth
      have hshallow : m.outerDepth ≤ 1 := ((depth_le_iff m).1 hsingle).1
      exact fills_of_evaluates hm hb ⟨Nat.le_refl 1, Nat.le_refl 1⟩ (loopsUnder_of_depth hsingle hshallow hshallow)
        ⟨document, heval⟩

example : (draftEngine guardedTwice defaultPasses).render (draft guardedTwice).name refusingContext =
    .error (.render (draft guardedTwice).name "no text".text (some (.value (.silent "no text".text)))) := rfl

end Untaken

end Engine

end Stencil
