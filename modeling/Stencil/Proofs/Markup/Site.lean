import Stencil.Proofs.Directive.Meaning

/-!
# Places in trees

* **Sites** (`Markup.Site`): trees with one place left open, at any depth of conditionals and loops.
* **Filling** (`Site.fill`) puts a tree at the place. What comes out means what the site means with the meaning of the
  filling at its place, in whatever scopes the place is reached (`Site.eval_fill`).
* A place inside a loop is reached in the scopes of elements only (`Site.eval_congr`).
-/

namespace Stencil.Markup

/-! ## Evaluating -/

section Evaluating

variable {metadata : Metadata}

theorem eval_append (a b : Markup) (s : Scope) :
    (a ++ b).eval metadata s = inTurn (a.eval metadata s) (b.eval metadata s) := by
  have h : (a ++ b).meaning (outsideText s.vars metadata) [] s = _ := meaning_append b a
  simpa only [meaning_of_none_held, eval_eq_evalWith] using h

theorem eval_when (n : Text) (yes : Markup) (s : Scope) :
    (when n yes done).eval metadata s = if s.holds n then yes.eval metadata s else .ok [] := by
  have h : (when n yes done).meaning (outsideText s.vars metadata) [] s = _ := meaning_when n yes done
  simpa only [meaning_of_none_held, eval_eq_evalWith, meaning_done, inTurn_nil] using h

theorem eval_choice (n : Text) (yes no : Markup) (s : Scope) :
    (choice n yes no done).eval metadata s = if s.holds n then yes.eval metadata s else no.eval metadata s := by
  have h : (choice n yes no done).meaning (outsideText s.vars metadata) [] s = _ := meaning_choice n yes no done
  simpa only [meaning_of_none_held, eval_eq_evalWith, meaning_done, inTurn_nil] using h

theorem eval_each (n : Text) (body : Markup) (s : Scope) : (each n body done).eval metadata s =
    List.flatten <$> (loopItems s n).mapM fun (item, index) => body.eval metadata (s.enter index item) := by
  rw [← inTurn_nil (List.flatten <$> _), inTurn, bind_map_left]
  rfl

theorem eval_place (n : Text) (s : Scope) : (place n done).eval metadata s = evalPlace metadata s n := inTurn_nil _

end Evaluating

/-! ## Sites -/

/-- A tree with one place left open. -/
inductive Site where
  | here
  /-- The place stands between two trees. -/
  | between (before : Markup) (site : Site) (after : Markup)
  | inWhen (name : Text) (site : Site)
  /-- In the first of two branches. -/
  | inYes (name : Text) (site : Site) (no : Markup)
  /-- In the second of two branches. -/
  | inNo (name : Text) (yes : Markup) (site : Site)
  | inEach (name : Text) (site : Site)

namespace Site

/-- The tree with another one at the place. -/
def fill (m : Markup) : Site → Markup
  | here => m
  | between before site after => before ++ site.fill m ++ after
  | inWhen n site => when n (site.fill m) done
  | inYes n site no => choice n (site.fill m) no done
  | inNo n yes site => choice n yes (site.fill m) done
  | inEach n site => each n (site.fill m) done

/-- All but what stands at the place is well-formed. -/
def WellFormed : Site → Prop
  | here => True
  | between before site after => before.WellFormed ∧ site.WellFormed ∧ after.WellFormed
  | inWhen n site => IsName n ∧ site.WellFormed
  | inYes n site no => IsName n ∧ site.WellFormed ∧ no.WellFormed
  | inNo n yes site => IsName n ∧ yes.WellFormed ∧ site.WellFormed
  | inEach n site => IsName n ∧ site.WellFormed

/-- The place stands in the body of a loop. -/
def InLoop : Site → Prop
  | here => False
  | between _ site _ => site.InLoop
  | inWhen _ site => site.InLoop
  | inYes _ site _ => site.InLoop
  | inNo _ _ site => site.InLoop
  | inEach _ _ => True

/-- What the tree means in a scope, given what the place means in the scopes in which it is reached. -/
def eval (metadata : Metadata) (place : Scope → Except TextFault Text) : Site → Scope → Except TextFault Text
  | here, s => place s
  | between before site after, s =>
    inTurn (inTurn (before.eval metadata s) (site.eval metadata place s)) (after.eval metadata s)
  | inWhen n site, s => if s.holds n then site.eval metadata place s else .ok []
  | inYes n site no, s => if s.holds n then site.eval metadata place s else no.eval metadata s
  | inNo n yes site, s => if s.holds n then yes.eval metadata s else site.eval metadata place s
  | inEach n site, s =>
    List.flatten <$> (loopItems s n).mapM fun (item, index) => site.eval metadata place (s.enter index item)

/-! ## Filling -/

theorem WellFormed.fill {m : Markup} (hm : m.WellFormed) : ∀ {site : Site}, site.WellFormed → (site.fill m).WellFormed
  | here, _ => hm
  | between before site after, ⟨hb, hs, ha⟩ => by
    have hformed : ∀ {m : Markup}, m.WellFormed → m.Formed Plain := fun {m} h => (formed_plain_iff m).2 h
    exact (formed_plain_iff _).1 (((hformed hb).append (hformed (hs.fill hm))).append (hformed ha))
  | inWhen _ _, ⟨hn, hs⟩ => ⟨hn, hs.fill hm, trivial⟩
  | inYes _ _ _, ⟨hn, hs, hno⟩ => ⟨hn, hs.fill hm, hno, trivial⟩
  | inNo _ _ _, ⟨hn, hy, hs⟩ => ⟨hn, hy, hs.fill hm, trivial⟩
  | inEach _ _, ⟨hn, hs⟩ => ⟨hn, hs.fill hm, trivial⟩

variable {metadata : Metadata}

/-- **Filling a place** gives what the site means with the meaning of the filling at its place. -/
theorem eval_fill (m : Markup) (site : Site) (s : Scope) :
    (site.fill m).eval metadata s = site.eval metadata (m.eval metadata) s := by
  induction site generalizing s with
  | here => rfl
  | between before site after ih => rw [fill, eval_append, eval_append, ih, eval]
  | inWhen n site ih => rw [fill, eval_when, ih, eval]
  | inYes n site no ih => rw [fill, eval_choice, ih, eval]
  | inNo n yes site ih => rw [fill, eval_choice, ih, eval]
  | inEach n site ih =>
    have hbody : (site.fill m).eval metadata = site.eval metadata (m.eval metadata) := funext ih
    rw [fill, eval_each, hbody, eval]

/-- What the place means matters in the scopes in which it can be reached: inside a loop there is an element. -/
theorem eval_congr {place place' : Scope → Except TextFault Text} (site : Site) (s : Scope)
    (h : ∀ s' : Scope, (s'.frames = [] → s.frames = [] ∧ ¬site.InLoop) → place s' = place' s') :
    site.eval metadata place s = site.eval metadata place' s := by
  induction site generalizing s with
  | here => exact h s fun hs => ⟨hs, id⟩
  | between before site after ih => rw [eval, eval, ih s h]
  | inWhen n site ih => rw [eval, eval, ih s h]
  | inYes n site no ih => rw [eval, eval, ih s h]
  | inNo n yes site ih => rw [eval, eval, ih s h]
  | inEach n site ih =>
    have hbody : ∀ index item, site.eval metadata place (s.enter index item)
        = site.eval metadata place' (s.enter index item) := by
      intro index item
      apply ih
      intro s' hs'
      -- the scope of an element has a frame, so the hypothesis on scopes without frames says nothing
      exact h s' fun hnil => by cases (hs' hnil).1
    simp only [eval, hbody]

end Site

end Stencil.Markup
