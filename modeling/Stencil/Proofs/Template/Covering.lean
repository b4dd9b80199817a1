import Stencil.Proofs.Directive.Congruence
import Stencil.Proofs.Template.Outcomes
import Stencil.Proofs.Template.Substituting

/-!
# Covering a template with its own body

* **Variables that answer alike** (`Scope.Agrees`): a body is filled alike with them (`fillBody_congr`), since nothing
  but the values of names is ever read.
* A customization declares nothing. So one that gives a template its own body back (`Template.identity`) takes its
  declarations away and changes nothing else: the name renders as if the template were registered without them, in the
  contexts that give a value to every name with a default just as before, unless required names have no value
  (`identity_customization`). Otherwise it is seen (`identity_customization_seen`).
-/

namespace Stencil

/-! ## Variables that answer alike -/

/-- Steps that are equal one by one are equal done one after the other. -/
theorem congruence_eq : Resolve.Congruence fun _ => Eq where
  pure _ := rfl
  bind := by
    rintro _ _ x _ f g rfl h
    rw [funext h]
  noteExhausted := rfl

namespace Scope

/-- Scopes of the same elements whose variables answer alike. -/
structure Agrees (s s' : Scope) : Prop where
  frames : s.frames = s'.frames
  vars (name : Text) : s.vars.get? name = s'.vars.get? name

theorem getFrom?_congr {vars vars' : Fields} {name : Text} (h : vars.get? name = vars'.get? name) :
    ∀ frames, getFrom? vars name frames = getFrom? vars' name frames
  | [] => h
  | f :: frames => by rw [getFrom?, getFrom?, getFrom?_congr h frames]

namespace Agrees

variable {s s' : Scope}

theorem enter (h : s.Agrees s') (index : Nat) (item : Value) : (s.enter index item).Agrees (s'.enter index item) :=
  ⟨congrArg (Frame.mk index item :: ·) h.frames, h.vars⟩

theorem get? (h : s.Agrees s') (name : Text) : s.get? name = s'.get? name := by
  rw [Scope.get?, Scope.get?, h.frames]
  exact getFrom?_congr (h.vars name) _

theorem lookup (h : s.Agrees s') (name : Text) : s.lookup name = s'.lookup name := by
  rw [Scope.lookup, Scope.lookup, h.get?, h.get?]

theorem holds (h : s.Agrees s') : s.holds = s'.holds := funext fun name => congrArg Value.isTruthy (h.lookup name)

theorem fillPlaceholder (h : s.Agrees s') (f : Frame) : fillPlaceholder s f = fillPlaceholder s' f := by
  funext p
  rw [Stencil.fillPlaceholder, Stencil.fillPlaceholder, h.lookup]

/-- One pass is the same if the passes over loop bodies are. -/
theorem onePass {resolve resolve' : Scope → Text → Resolve Text} (h : s.Agrees s')
    (hresolve : ∀ s s' : Scope, s.Agrees s' → ∀ t, resolve s t = resolve' s' t) (t : Text) :
    onePass resolve s t = onePass resolve' s' t := by
  refine congruence_eq.onePass h.holds (fun l => congruence_eq.expandLoop ?_) t
  rw [h.lookup]
  cases (s'.lookup l.name).elements? with
  | none => exact .none
  | some items =>
    refine .some (List.forall₂_same.2 fun item _ index => ?_)
    exact congruence_eq.expandElement (hresolve _ _ (h.enter index item) l.body)
      fun p => congrFun ((h.enter index item).fillPlaceholder _) p

theorem runPasses (budget : Nat) : ∀ (depth : Nat) {s s' : Scope}, s.Agrees s' → ∀ t : Text,
    runPasses budget depth s t = runPasses budget depth s' t
  | 0, _, _, _, _ => rfl
  | depth + 1, _, _, h, t =>
    congruence_eq.settle (h.onePass fun _ _ hinner => runPasses budget depth hinner) budget t

end Agrees

end Scope

namespace Engine

/-- A body is filled alike with variables that answer alike. -/
theorem fillBody_congr {vars vars' : Fields} (h : ∀ name, vars.get? name = vars'.get? name) (budget : Nat)
    (body : Text) (metadata : Metadata) :
    fillBody budget body vars metadata = fillBody budget body vars' metadata := by
  have hagrees : (Scope.outer vars).Agrees (.outer vars') := ⟨rfl, h⟩
  have hresolve : resolveDirectives budget body vars = resolveDirectives budget body vars' :=
    hagrees.runPasses budget _ body
  have hfill : ∀ t, substitute t vars metadata = substitute t vars' metadata :=
    substitute_congr fun name _ => h name
  simp only [fillBody, hresolve, hfill]

/-! ## Attempts -/

variable {e : Engine} {name : Text} {t : Template} {context : Context}

/-- What filling a body comes to as a render of a name, and how often a pass budget ran out. -/
def filledAs (name : Text) : EStateM.Result Fault Ledger Text → Except TemplateError Text × Nat
  | .ok document ledger => (.ok document, ledger.exhausted)
  | .error fault ledger => (.error (renderFault name fault), ledger.exhausted)

theorem attempt_of_present (hget : e.registry.get? name = some t)
    (hpresent : missing t (e.effectiveVariables t context.vars) = []) :
    e.attempt name context = filledAs name
      ((fillBody e.passes.val t.body (e.effectiveVariables t context.vars) context.metadata).run .empty) := by
  simp only [attempt, hget, hpresent, List.isEmpty_nil, Bool.not_true, Bool.false_eq_true, if_false]
  cases (fillBody e.passes.val t.body (e.effectiveVariables t context.vars) context.metadata).run .empty <;> rfl

/-- A render that fills a body has a cause where it fails. -/
theorem filledAs_ne_causeless (why : Text) (result : EStateM.Result Fault Ledger Text) :
    (filledAs name result).1 ≠ .error (.render name why none) := by
  cases result with
  | ok document ledger => exact nofun
  | error fault ledger => simp [filledAs, renderFault]

end Engine

/-! ## Identity customizations -/

namespace Template

/-- The template without its declarations. -/
def undeclared (t : Template) : Template := { t with declared := [] }

/-- The customization that gives a template its own body back, without overrides. -/
def identity (t : Template) (metadata : Fields) : Customization := ⟨t.name, t.body, [], metadata⟩

end Template

namespace History

variable {h : History} {name : Text} {t : Template}

/-- A registered template has a draft that passed. -/
theorem exists_validate_of_template? (ht : h.template? name = some t) : ∃ d : TemplateDraft, d.validate = .ok t := by
  unfold template? at ht
  generalize h.reverse = before at ht
  induction before with
  | nil => cases ht
  | cons change before ih =>
    cases change with
    | register d =>
      rw [lastTemplate?] at ht
      split at ht
      · rename_i t' hd
        split at ht
        · cases ht
          exact ⟨d, hd⟩
        · exact ih ht
      · exact ih ht
    | customize d => exact ih ht
    | remove other => exact ih ht

end History

/-- The name and the body of a template that passed make a customization that passes. -/
theorem TemplateDraft.validate_identity {d : TemplateDraft} {t : Template} (h : d.validate = .ok t)
    (metadata : Fields) :
    (CustomizationDraft.ofCustomization (t.identity metadata)).validate = .ok (t.identity metadata) := by
  unfold validate at h
  split at h
  · rename_i name kind body declared hname hkind hbody hdeclared
    cases h
    simp only [CustomizationDraft.validate, CustomizationDraft.ofCustomization, Template.identity,
      nonBlank?_str hname, nonBlank?_str hbody]
  · cases h

namespace Registry

variable {r : Registry} {t : Template}

/-- Under its identity customization, a template is seen without its declarations. -/
theorem get?_cover_identity (ht : r.templates.get? t.name = some t) (metadata : Fields) :
    (r.cover (t.identity metadata)).get? t.name = some t.undeclared := by
  have hcover : (r.cover (t.identity metadata)).overlay.get? t.name = some (t.identity metadata) := by
    exact (NameMap.get?_insert _ _ _ _).trans (if_pos rfl)
  have hkind : (r.cover (t.identity metadata)).asTemplate (t.identity metadata) = t.undeclared := by
    simp only [asTemplate, cover, Template.identity, Template.undeclared, ht, Option.map_some, Option.getD_some]
  rw [get?, hcover]
  exact congrArg some hkind

theorem get?_add_undeclared (hplain : r.overlay.get? t.name = none) :
    (r.add t.undeclared).get? t.name = some t.undeclared := by
  have hadd : (r.add t.undeclared).templates.get? t.name = some t.undeclared :=
    (NameMap.get?_insert _ _ _ _).trans (if_pos rfl)
  rw [get?, add, hplain]
  exact hadd

end Registry

namespace Engine

section Identity

variable {r : Registry} {passes : PassBudget} {t : Template} {context : Context}

/-- Under its identity customization, a template is filled with the given variables alone. -/
theorem attempt_cover_identity (ht : r.templates.get? t.name = some t) (metadata : Fields) :
    attempt ⟨r.cover (t.identity metadata), passes⟩ t.name context = filledAs t.name
      ((fillBody passes.val t.body (Fields.update [] context.vars) context.metadata).run .empty) := by
  have hcustom : (r.cover (t.identity metadata)).getCustom? t.name = some (t.identity metadata) :=
    (NameMap.get?_insert _ _ _ _).trans (if_pos rfl)
  have hvars : effectiveVariables ⟨r.cover (t.identity metadata), passes⟩ t.undeclared context.vars
      = Fields.update [] context.vars := by
    have hname : t.undeclared.name = t.name := rfl
    rw [effectiveVariables, hname, hcustom]
    rfl
  rw [attempt_of_present (r.get?_cover_identity ht metadata) rfl, hvars]
  rfl

theorem attempt_add_undeclared (hplain : r.overlay.get? t.name = none) :
    attempt ⟨r.add t.undeclared, passes⟩ t.name context = filledAs t.name
      ((fillBody passes.val t.body (Fields.update [] context.vars) context.metadata).run .empty) := by
  have hvars : effectiveVariables ⟨r.add t.undeclared, passes⟩ t.undeclared context.vars
      = Fields.update [] context.vars := by
    have hcustom : (r.add t.undeclared).getCustom? t.undeclared.name = none := hplain
    rw [effectiveVariables, hcustom]
    rfl
  rw [attempt_of_present (r.get?_add_undeclared hplain) rfl, hvars]
  rfl

/-- Where every name with a default is given a value, the defaults do not matter. -/
theorem attempt_of_given (hplain : r.overlay.get? t.name = none) (ht : r.templates.get? t.name = some t)
    (hpresent : missing t (effectiveVariables ⟨r, passes⟩ t context.vars) = [])
    (hgiven : ∀ n, t.default? n ≠ none → context.vars.last? n ≠ none) :
    attempt ⟨r, passes⟩ t.name context = filledAs t.name
      ((fillBody passes.val t.body (Fields.update [] context.vars) context.metadata).run .empty) := by
  have hget : r.get? t.name = some t := by rw [Registry.get?, hplain, ht]
  have hvars : effectiveVariables ⟨r, passes⟩ t context.vars = t.defaults.update context.vars := by
    have hcustom : r.getCustom? t.name = none := hplain
    rw [effectiveVariables, hcustom]
  have halike : ∀ n, (t.defaults.update context.vars).get? n = (Fields.update [] context.vars).get? n := by
    intro n
    rw [Fields.get?_update, Fields.get?_update, t.get?_defaults]
    cases hdefault : t.default? n with
    | none => rfl
    | some v =>
      obtain ⟨w, hw⟩ := Option.ne_none_iff_exists'.1 (hgiven n (by simp [hdefault]))
      rw [hw, Option.some_or, Option.some_or]
  rw [attempt_of_present hget hpresent, hvars, fillBody_congr halike]

/-- **Covering a template with its own body takes its declarations away.** For every history of changes that registers
the template and does not customize it: the customization with its name, its body and no overrides is accepted, and then
the name renders in every context as if the template were registered without declarations. No required name is asked for
any more. So in the contexts that give a value to every name with a default, the outcome, with the number of spent
budgets, is the one before exactly if no required name lacks a value. -/
theorem identity_customization {changes : History} {t : Template} (hplain : changes.cover? t.name = none)
    (ht : changes.template? t.name = some t) (passes : PassBudget) (metadata : Fields) :
    let r := Registry.empty.after changes
    let covered := r.cover (t.identity metadata)
    r.customize (.ofCustomization (t.identity metadata)) = .ok covered ∧
    (∀ context, attempt ⟨covered, passes⟩ t.name context = attempt ⟨r.add t.undeclared, passes⟩ t.name context) ∧
    (∀ context why, render ⟨covered, passes⟩ t.name context ≠ .error (.render t.name why none)) ∧
    ∀ context, (∀ n, t.default? n ≠ none → context.vars.last? n ≠ none) →
      (attempt ⟨covered, passes⟩ t.name context = attempt ⟨r, passes⟩ t.name context ↔
        changes.absent t.name context.vars = []) := by
  intro r covered
  have hr : r.Records changes := Registry.records_empty.after changes
  have hoverlay : r.overlay.get? t.name = none := (hr.customizations.get? t.name).trans hplain
  have htemplate : r.templates.get? t.name = some t := (hr.templates.get? t.name).trans ht
  have hget : changes.get? t.name = some t := by rw [History.get?, hplain, ht]; rfl
  obtain ⟨d, hd⟩ := History.exists_validate_of_template? ht
  have hcauseless : ∀ context why, render ⟨covered, passes⟩ t.name context ≠ .error (.render t.name why none) := by
    intro context why
    rw [render, attempt_cover_identity htemplate]
    exact filledAs_ne_causeless why _
  refine ⟨?_, fun context => ?_, hcauseless, fun context hgiven => ⟨fun hsame => ?_, fun hpresent => ?_⟩⟩
  · rw [Registry.customize, Registry.checkCustomization, d.validate_identity hd]
    rfl
  · rw [attempt_cover_identity htemplate, attempt_add_undeclared hoverlay]
  · by_contra habsent
    have hfails := render_of_absent (e := ⟨r, passes⟩) ((hr.get? t.name).trans hget) (missing_eq_absent hr hget) habsent
    exact hcauseless context _ ((congrArg Prod.fst hsame).trans hfails)
  · rw [attempt_cover_identity htemplate,
      attempt_of_given hoverlay htemplate ((missing_eq_absent (e := ⟨r, passes⟩) hr hget).trans hpresent) hgiven]

end Identity

open Markup in
/-- A card that needs a sign, to a name with a default. -/
def card : Template where
  name := "card".text
  kind := .generic
  body := (lit "Hello " ++ slot "who" ++ slot "sign").print
  declared := [⟨"who".text, "string".text, false, [], .str "Ada".text⟩,
    ⟨"sign".text, "string".text, true, [], .null⟩]

/-- A registry with nothing but the card. -/
def cardHistory : History := [.register (.ofTemplate card)]

/-- The card in a context, before and after it is covered. -/
def cardRenders (vars : Fields) : Except TemplateError Text × Except TemplateError Text :=
  let r := Registry.empty.after cardHistory
  let context : Context := ⟨vars, greetingMetadata⟩
  (render ⟨r, defaultPasses⟩ card.name context, render ⟨r.cover (card.identity []), defaultPasses⟩ card.name context)

theorem identity_customization_card :
    (cardHistory.cover? card.name = none ∧ cardHistory.template? card.name = some card ∧
      cardHistory.absent card.name [(.str "who".text, .str "Bob".text), (.str "sign".text, .str "!".text)]
        = []) ∧
    cardRenders [(.str "who".text, .str "Bob".text), (.str "sign".text, .str "!".text)]
      = (.ok "Hello Bob!".text, .ok "Hello Bob!".text) := by
  have hplain : cardHistory.cover? card.name = none := rfl
  have ht : cardHistory.template? card.name = some card := rfl
  have hlaw := identity_customization hplain ht defaultPasses []
  have hgiven : ∀ n, card.default? n ≠ none →
      Fields.last? [(.str "who".text, .str "Bob".text), (.str "sign".text, .str "!".text)] n ≠ none := by
    intro n hn hnone
    have hwho : "who".text = n := by simpa [Template.default?, card] using hn
    subst hwho
    cases hnone
  have hsame := (hlaw.2.2.2 ⟨_, greetingMetadata⟩ hgiven).2 rfl
  refine ⟨⟨hplain, ht, rfl⟩, Prod.ext rfl ?_⟩
  exact (congrArg Prod.fst hsame).trans rfl

/-- A card that is covered with its own body loses the default of the name, and is not asked for its sign. -/
theorem identity_customization_seen :
    cardRenders [(.str "sign".text, .str "!".text)]
      = (.ok "Hello Ada!".text, .ok (Markup.lit "Hello " ++ Markup.slot "who" ++ Markup.lit "!").print) ∧
    cardRenders [] = (.error (.render card.name (absentMessage ["sign".text]) none), .ok card.body) :=
  ⟨rfl, rfl⟩

end Engine

end Stencil
