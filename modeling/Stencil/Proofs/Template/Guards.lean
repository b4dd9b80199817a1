import Stencil.Proofs.Markup.Site
import Stencil.Proofs.Template.Evaluation
import Stencil.Proofs.Template.Verbatim

/-!
# Guards and placeholders

What a conditional tests at a place of a template, and what a placeholder of the same name shows there.

* **Shown and tested** (`Scope.holds_eq_shown?`): a name that is not reserved holds if the value that its placeholder
  shows is true. The fields of `this` are read so inside loops only.
* **Documents** (`Engine.Documents`): what a template renders to, with any budget that is enough for it.
* At every place of every template, conditionals on a name test what the scope binds to it, placeholders of the name
  show the metadata or the scope, and the two read one value wherever the name is one of the scope
  (`guards_read_placeholders`). A reserved name does not: its conditionals test the variables (`guards_differ`).
-/

namespace Stencil

open Markup

/-! ## Shown and tested -/

namespace Scope

variable {metadata : Metadata} {s : Scope} {n : Text}

theorem getFrom?_eq_fieldOrVariable? (vars : Fields) (hthis : n ≠ thisName) (hindex : n ≠ indexName) :
    ∀ frames : List Frame, getFrom? vars n frames = (frames.findSome? fun f => f.fields.get? n).or (vars.get? n)
  | [] => rfl
  | f :: frames => by
    rw [getFrom?, if_neg hthis, if_neg hindex, List.findSome?_cons]
    cases f.fields.get? n with
    | some v => rfl
    | none => exact getFrom?_eq_fieldOrVariable? vars hthis hindex frames

theorem lookup_of_not_field (h : ¬thisPoint.isPrefixOf n) : s.lookup n = (s.get? n).getD .null := by
  rw [Scope.lookup, Text.after?, if_neg h]

/-- What is looked up is what a placeholder shows, null where it shows nothing. -/
theorem lookup_eq_shown? (hreserved : ¬reservedNames.contains n) (hthis : thisPoint.isPrefixOf n → s.frames ≠ []) :
    s.lookup n = (s.shown? metadata n).getD .null := by
  rw [shown?, if_neg hreserved]
  cases hframes : s.frames with
  | nil =>
    rw [lookup_of_not_field fun h => hthis h hframes, Scope.get?, hframes]
    rfl
  | cons f frames =>
    simp only
    split
    · rename_i hindex
      subst hindex
      rw [lookup_of_not_field (by decide), Scope.get?, hframes]
      rfl
    · rename_i hindex
      split
      · rfl
      · rename_i hname
        rw [not_or] at hname
        rw [lookup_of_not_field hname.2, Scope.get?, getFrom?_eq_fieldOrVariable? s.vars hname.1 hindex,
          fieldOrVariable?]

/-- A name that is not reserved holds if the value that its placeholder shows is true. -/
theorem holds_eq_shown? (hreserved : ¬reservedNames.contains n) (hthis : thisPoint.isPrefixOf n → s.frames ≠ []) :
    s.holds n = (s.shown? metadata n).any Value.isTruthy := by
  rw [holds, lookup_eq_shown? hreserved hthis]
  cases s.shown? metadata n <;> rfl

end Scope

/-! ## Documents -/

/-- None of the texts that placeholders show can be taken for a token. -/
def Slots.Unforged (vars : Fields) (metadata : Metadata) : Prop :=
  Shows vars metadata (slotOpen ∉ ·) ∨ Shows vars metadata (slotClose ∉ ·)

theorem Slots.Unforged.guard {vars : Fields} {metadata : Metadata} (h : Unforged vars metadata) :
    ∃ value after, Guard value after ∧ Shows vars metadata value := by
  rcases h with h | h
  · exact ⟨_, _, guard_not_open, h⟩
  · exact ⟨_, _, guard_not_close, h⟩

namespace Engine

variable {vars : Fields} {metadata : Metadata}

/-- What the body of a template renders to, with any budget of at least as many passes as its conditionals nest without
crossing a loop. -/
structure Documents (vars : Fields) (metadata : Metadata) (m : Markup) (meaning : Except TextFault Text) : Prop where
  /-- Nothing else is rendered. -/
  only {budget : Nat} {document : Text} {ledger : Ledger} : max 1 m.depth ≤ budget →
    (fillBody budget m.print vars metadata).run .empty = .ok document ledger → meaning = .ok document
  /-- It is rendered where all values print, unless more of them are held than the numbers of tokens reach. -/
  rendered {budget : Nat} : max 1 m.depth ≤ budget → (∀ name v, vars.get? name = some v → v.Printable) →
    (∀ name v, metadata.get? name = some v → ∃ t, v.printed = .ok t) →
    ∃ document ledger, meaning = .ok document ∧
      ((fillBody budget m.print vars metadata).run .empty = .ok document ledger ∨
        digitBound < ledger.slots.length ∧
        ∃ count, (fillBody budget m.print vars metadata).run .empty = .error (.overlongToken count) ledger)

section Evaluated

variable {m : Markup} (hm : m.WellFormed) (hcounted : ∀ name v, vars.get? name = some v → v.Counted)
  (hslots : Slots.Unforged vars metadata)

include hm hcounted

/-- A resolved template is woven into what it evaluates to. -/
theorem weave_eq_eval {budget : Nat} (hb : max 1 m.depth ≤ budget) {resolved : Text} {ledger : Ledger}
    (h : (resolveDirectives budget m.print vars).run .empty = .ok resolved ledger) :
    Issued ledger.slots.length resolved ∧ ledger.slots.weave vars metadata resolved = m.eval metadata (.outer vars) :=
  weave_resolved Value.hereditary_counted Value.countable_counted hm hb hcounted h

include hslots

/-- A resolved template is filled to what it evaluates to, unless a token has too many digits. -/
theorem run_fillBody_resolved {budget : Nat} (hb : max 1 m.depth ≤ budget) {resolved : Text} {ledger : Ledger}
    (h : (resolveDirectives budget m.print vars).run .empty = .ok resolved ledger) :
    (∃ fault, m.eval metadata (.outer vars) = .error fault ∧
      (fillBody budget m.print vars metadata).run .empty = .error (.value fault) ledger) ∨
    ∃ document, m.eval metadata (.outer vars) = .ok document ∧
      ((fillBody budget m.print vars metadata).run .empty = .ok document ledger ∨
        digitBound < ledger.slots.length ∧
        ∃ count, (fillBody budget m.print vars metadata).run .empty = .error (.overlongToken count) ledger) := by
  obtain ⟨value, after, hg, hshows⟩ := hslots.guard
  have hresolved : Issued ledger.slots.length resolved ∧
      ledger.slots.weave vars metadata resolved = m.eval metadata (.outer vars) := weave_eq_eval hm hcounted hb h
  obtain ⟨hissued, heval⟩ := hresolved
  rw [run_fillBody h hissued hg hshows, Slots.document, heval]
  cases m.eval metadata (.outer vars) with
  | error fault => exact .inl ⟨fault, rfl, rfl⟩
  | ok document =>
    refine .inr ⟨document, rfl, ?_⟩
    cases hlong : Slots.overlong? resolved with
    | none => exact .inl rfl
    | some count =>
      refine .inr ⟨Nat.lt_of_not_le fun hle => ?_, count, rfl⟩
      rw [Slots.overlong?_of_issued hissued hle] at hlong
      cases hlong

/-- A well-formed template renders to what it evaluates to. -/
theorem documents_eval : Documents vars metadata m (m.eval metadata (.outer vars)) where
  only {budget document ledger} hb hrun := by
    obtain ⟨resolved, ledger', hres, -⟩ := Resolve.run_bind_eq_ok hrun
    rcases run_fillBody_resolved hm hcounted hslots hb hres with ⟨fault, -, hfault⟩ | ⟨document', heval, hdocument⟩
    · rw [hfault] at hrun
      cases hrun
    · rcases hdocument with hdocument | ⟨-, count, hlong⟩
      · rw [hdocument] at hrun
        cases hrun
        exact heval
      · rw [hlong] at hrun
        cases hrun
  rendered {budget} hb hvars hmetadata := by
    have hpasses : 0 < budget := by omega
    obtain ⟨value, after, hg, hshows⟩ := hslots.guard
    obtain ⟨resolved, ledger, hres⟩ := resolveDirectives_succeeds hm hpasses hvars
    rcases run_fillBody_resolved hm hcounted hslots hb hres with ⟨fault, hfault, -⟩ | ⟨document, heval, hdocument⟩
    · -- the placeholders print, so that weaving does not fail
      obtain ⟨filled, hfilled⟩ := substitute_succeeds (placeholderValue?_prints hvars hmetadata) resolved
      obtain ⟨hissued, hweave⟩ := weave_eq_eval hm hcounted hb hres
      have hwoven := Slots.woven_of_issued hg hshows resolved hissued
      rw [Slots.Woven, hfilled, hweave, hfault] at hwoven
      cases hwoven.1
    · exact ⟨document, ledger, heval, hdocument⟩

end Evaluated

/-! ## Places -/

/-- At a place, conditionals on a name are decided by whether a value is true, or by its absence. -/
structure Tests (vars : Fields) (metadata : Metadata) (site : Site) (n : Text) (value : Scope → Option Value) :
    Prop where
  when {yes : Markup} : yes.WellFormed → Documents vars metadata (site.fill (when n yes done))
    (site.eval metadata (fun s => if (value s).any Value.isTruthy then yes.eval metadata s else .ok []) (.outer vars))
  choice {yes no : Markup} : yes.WellFormed → no.WellFormed →
    Documents vars metadata (site.fill (choice n yes no done)) (site.eval metadata
      (fun s => if (value s).any Value.isTruthy then yes.eval metadata s else no.eval metadata s) (.outer vars))

/-- What a placeholder shows in a conditional of its own name: a value that is true, and nothing else. -/
def shownIfTrue (value : Option Value) : Except TextFault Text :=
  match value with
  | some v => if v.isTruthy then v.printed else .ok []
  | none => .ok []

section Places

variable {site : Site} {n : Text} (hsite : site.WellFormed)
  (hcounted : ∀ name v, vars.get? name = some v → v.Counted) (hslots : Slots.Unforged vars metadata)

include hsite hcounted hslots

/-- A filled site renders to what its place means, in the scopes in which it is reached. -/
theorem documents_fill {m : Markup} (hm : m.WellFormed) {place : Scope → Except TextFault Text}
    (h : ∀ s : Scope, (s.frames = [] → ¬site.InLoop) → m.eval metadata s = place s) :
    Documents vars metadata (site.fill m) (site.eval metadata place (.outer vars)) := by
  have hdocuments := documents_eval (hsite.fill hm) hcounted hslots
  rw [site.eval_fill m, site.eval_congr (.outer vars) fun s hs => h s fun hnil => (hs hnil).2] at hdocuments
  exact hdocuments

/-- Conditionals are decided by the value that their name has where the place is reached. -/
theorem tests_of_holds (hn : IsName n) {value : Scope → Option Value}
    (h : ∀ s : Scope, (s.frames = [] → ¬site.InLoop) → s.holds n = (value s).any Value.isTruthy) :
    Tests vars metadata site n value where
  when {yes} hy := by
    have hwhen : (Markup.when n yes done).WellFormed := ⟨hn, hy, trivial⟩
    exact documents_fill hsite hcounted hslots hwhen fun s hs => by rw [eval_when, h s hs]
  choice {yes no} hy hno := by
    have hchoice : (Markup.choice n yes no done).WellFormed := ⟨hn, hy, hno, trivial⟩
    exact documents_fill hsite hcounted hslots hchoice fun s hs => by rw [eval_choice, h s hs]

end Places

/-- **Guards and placeholders.** At every place of every well-formed template, at any depth of loops and conditionals:
a conditional tests what its name is bound to in the scope of the place; a placeholder shows what its name means there,
and is literal where it means nothing. For a name that is not reserved, and inside loops if it names a field of `this`,
the conditional tests exactly the value that the placeholder shows, so that a placeholder in a conditional of its name
shows a true value and nothing else. -/
theorem guards_read_placeholders {site : Site} {n : Text} (hsite : site.WellFormed) (hn : IsName n)
    (hcounted : ∀ name v, vars.get? name = some v → v.Counted) (hslots : Slots.Unforged vars metadata) :
    Tests vars metadata site n (fun s => some (s.lookup n)) ∧
    (n ≠ elseName → Documents vars metadata (site.fill (place n done))
      (site.eval metadata (evalPlace metadata · n) (.outer vars))) ∧
    (¬reservedNames.contains n → (thisPoint.isPrefixOf n → site.InLoop) →
      Tests vars metadata site n (Scope.shown? metadata · n) ∧
      (n ≠ elseName → Documents vars metadata (site.fill (when n (place n done) done))
        (site.eval metadata (fun s => shownIfTrue (s.shown? metadata n)) (.outer vars)))) := by
  have hplace : n ≠ elseName → (place n done).WellFormed := fun he => ⟨hn, he, trivial⟩
  refine ⟨tests_of_holds hsite hcounted hslots hn fun s _ => rfl, fun he => ?_, fun hreserved hthis => ?_⟩
  · exact documents_fill hsite hcounted hslots (hplace he) fun s _ => eval_place n s
  · have hshown : ∀ s : Scope, (s.frames = [] → ¬site.InLoop) →
        s.holds n = (s.shown? metadata n).any Value.isTruthy := fun s hs =>
      Scope.holds_eq_shown? hreserved fun hpoint hnil => hs hnil (hthis hpoint)
    refine ⟨tests_of_holds hsite hcounted hslots hn hshown, fun he => ?_⟩
    have hguard : (when n (place n done) done).WellFormed := ⟨hn, hplace he, trivial⟩
    refine documents_fill hsite hcounted hslots hguard fun s hs => ?_
    rw [eval_when, hshown s hs, eval_place, evalPlace]
    cases hvalue : s.shown? metadata n with
    | none => rfl
    | some v => rfl

/-- A placeholder for a field of the element, in a conditional of its name, in a loop. -/
theorem guards_read_name :
    (Tests greetingVariables greetingMetadata (.inEach "people".text .here) "this.name".text
        (Scope.shown? greetingMetadata · "this.name".text) ∧
      Documents greetingVariables greetingMetadata
        (forEach "people" (onlyIf "this.name" (slot "this.name")))
        (Site.eval greetingMetadata (fun s => shownIfTrue (s.shown? greetingMetadata "this.name".text))
          (.inEach "people".text .here) (.outer greetingVariables))) ∧
    (fillBody 1 (forEach "people" (onlyIf "this.name" (slot "this.name"))).print greetingVariables
      greetingMetadata).run .empty = .ok "Ada".text ⟨["Ada".text], 2⟩ := by
  have hname : IsName "this.name".text := by decide
  have hsite : Site.WellFormed (.inEach "people".text .here) := ⟨by decide, trivial⟩
  have hreads := (guards_read_placeholders hsite hname
    (fun name v h => (printable_greetingVariables name v h).counted) (.inl shows_greeting)).2.2
  obtain ⟨htests, hguard⟩ := hreads (by decide) fun _ => trivial
  exact ⟨⟨htests, hguard (by decide)⟩, rfl⟩

/-! ## Where they differ -/

/-- One variable. -/
def oneVariable (name : String) : Fields := [(.str name.text, .str "x".text)]

/-- A placeholder in a conditional of its name shows nothing for a reserved name, for a field of `this` outside loops
and for the name that reads as the marker between two branches; a conditional that the passes do not reach stays; and a
value that is the token of an element is shown as the element. In all five the name means a value that is true. -/
theorem guards_differ :
    ((fillBody 10 (onlyIf "timestamp" (slot "timestamp")).print [] greetingMetadata).run .empty = .ok [] .empty ∧
      shownIfTrue ((Scope.outer []).shown? greetingMetadata "timestamp".text) = .ok "now".text) ∧
    ((fillBody 10 (onlyIf "this.f" (slot "this.f")).print (oneVariable "this.f") greetingMetadata).run .empty
        = .ok [] .empty ∧
      shownIfTrue ((Scope.outer (oneVariable "this.f")).shown? greetingMetadata "this.f".text) = .ok "x".text) ∧
    ((fillBody 10 (onlyIf "else" (slot "else")).print (oneVariable "else") greetingMetadata).run .empty
        = .ok [] .empty ∧
      shownIfTrue ((Scope.outer (oneVariable "else")).shown? greetingMetadata "else".text) = .ok "x".text) ∧
    ((fillBody 1 (onlyIf "a" (onlyIf "a" (slot "a"))).print (oneVariable "a") greetingMetadata).run .empty
        = .ok (onlyIf "a" (lit "x")).print ⟨[], 1⟩ ∧
      shownIfTrue ((Scope.outer (oneVariable "a")).shown? greetingMetadata "a".text) = .ok "x".text) ∧
    ((fillBody 10 (forEach "rows" (slot "this") ++ onlyIf "sign" (slot "sign")).print forgedContext.vars
        forgedContext.metadata).run .empty = .ok "AdaAda".text ⟨["Ada".text], 0⟩ ∧
      shownIfTrue ((Scope.outer forgedContext.vars).shown? forgedContext.metadata "sign".text)
        = .ok (slotToken 0)) :=
  ⟨⟨rfl, rfl⟩, ⟨rfl, rfl⟩, ⟨rfl, rfl⟩, ⟨rfl, rfl⟩, ⟨rfl, rfl⟩⟩

end Engine

end Stencil
