import Stencil.Proofs.Template.Fallback
import Stencil.Proofs.Template.Untaken

/-!
# What a render comes to

* **Precedence** (`History.value?`): the value of a name is the override of the customization, or else the given one, or
  else the default.
* **Stops** (`Engine.Stops`): the faults that stop the filling of a body, at each of its three stages. The last stage
  stops only for a token that has too many digits to be read, which no resolution writes (`not_overlong_of_unforged`)
  but a value may hold (`overlong_sign_stops`).
* **Outcomes** (`Engine.render_outcomes`): the registry after any changes renders a name or fails in one of three ways,
  each under its own condition on the history of the changes.
-/

namespace Stencil

open Markup

/-! ## Precedence -/

/-- The default that a template declares for a name: the last one that is not null. -/
def Template.default? (t : Template) (n : Text) : Option Value :=
  t.declared.reverse.findSome? fun v =>
    if v.name = n then
      match v.default with
      | .null => none
      | value => some value
    else none

theorem Template.get?_defaults (t : Template) (n : Text) : t.defaults.get? n = t.default? n := by
  rw [defaults, Fields.get?_ofList, Fields.last?, default?, ← List.filterMap_reverse]
  induction t.declared.reverse with
  | nil => rfl
  | cons v rest ih =>
    rw [List.findSome?_cons, ← ih]
    cases hv : v.default <;> by_cases hn : v.name = n <;> simp [hv, hn, Fields.get?]

namespace History

variable {h : History} {name : Text}

theorem name_of_cover? {c : Customization} (hc : h.cover? name = some c) : c.name = name := by
  unfold cover? at hc
  generalize h.reverse = before at hc
  induction before with
  | nil => cases hc
  | cons change before ih =>
    cases change with
    | register d => exact ih hc
    | customize d =>
      rw [lastCover?] at hc
      split at hc
      · split at hc
        · rename_i hname
          cases hc
          exact hname
        · exact ih hc
      · exact ih hc
    | remove other =>
      rw [lastCover?] at hc
      split at hc
      · cases hc
      · exact ih hc

theorem name_of_template? {t : Template} (ht : h.template? name = some t) : t.name = name := by
  unfold template? at ht
  generalize h.reverse = before at ht
  induction before with
  | nil => cases ht
  | cons change before ih =>
    cases change with
    | register d =>
      rw [lastTemplate?] at ht
      split at ht
      · split at ht
        · rename_i hname
          cases ht
          exact hname
        · exact ih ht
      · exact ih ht
    | customize d => exact ih ht
    | remove other => exact ih ht

theorem name_of_get? {t : Template} (ht : h.get? name = some t) : t.name = name := by
  rcases Option.or_eq_some_iff.1 ht with ht | ⟨-, ht⟩
  · obtain ⟨c, hc, rfl⟩ := Option.map_eq_some_iff.1 ht
    exact name_of_cover? hc
  · exact name_of_template? ht

/-- The value of a name when a template is rendered: that of the overrides of the customization, or else the given one,
or else the default. -/
def value? (h : History) (name : Text) (given : Fields) (n : Text) : Option Value :=
  ((h.cover? name).bind (·.overrides.last? n)).or ((given.last? n).or ((h.get? name).bind (·.default? n)))

/-- The required names of a template that have no value, in the order of declaration. -/
def absent (h : History) (name : Text) (given : Fields) : List Text :=
  (((h.get? name).map Template.required).getD []).filter fun n => (h.value? name given n).isNone

end History

namespace Engine

section Variables

variable {e : Engine} {h : History} {name : Text} {t : Template} {given : Fields}

theorem get?_effectiveVariables (hr : e.registry.Records h) (ht : h.get? name = some t) (n : Text) :
    (e.effectiveVariables t given).get? n = h.value? name given n := by
  have hcustom : e.registry.getCustom? t.name = h.cover? name := by
    rw [Registry.getCustom?, hr.customizations.get?, History.name_of_get? ht]
  have hbase : (t.defaults.update given).get? n = (given.last? n).or (t.default? n) := by
    rw [Fields.get?_update, t.get?_defaults]
  rw [effectiveVariables, hcustom, History.value?, ht]
  cases h.cover? name with
  | none => exact hbase
  | some c => exact (Fields.get?_update n c.overrides _).trans (congrArg _ hbase)

theorem missing_eq_absent (hr : e.registry.Records h) (ht : h.get? name = some t) :
    missing t (e.effectiveVariables t given) = h.absent name given := by
  rw [missing, History.absent, ht]
  refine List.filter_congr fun n _ => ?_
  rw [Fields.has, get?_effectiveVariables hr ht]
  cases h.value? name given n <;> rfl

end Variables

/-! ## Stops -/

/-- The faults that stop the filling of a body. -/
inductive Stops (budget : Nat) (body : Text) (vars : Fields) (metadata : Metadata) : Fault → Prop
  /-- The directives are not resolved. -/
  | resolving {fault : Fault} {ledger : Ledger} :
    (resolveDirectives budget body vars).run .empty = .error fault ledger → Stops budget body vars metadata fault
  /-- A placeholder is not filled. -/
  | filling {resolved : Text} {ledger : Ledger} {why : TextFault} :
    (resolveDirectives budget body vars).run .empty = .ok resolved ledger →
    substitute resolved vars metadata = .error why → Stops budget body vars metadata (.value why)
  /-- Texts are held, and a token has too many digits to be read. -/
  | restoring {resolved filled : Text} {ledger : Ledger} {count : Nat} :
    (resolveDirectives budget body vars).run .empty = .ok resolved ledger →
    substitute resolved vars metadata = .ok filled → ledger.slots ≠ [] → Slots.overlong? filled = some count →
    Stops budget body vars metadata (.overlongToken count)

section Stops

variable {budget : Nat} {body : Text} {vars : Fields} {metadata : Metadata}

/-- A body whose directives are resolved is filled in two more stages. -/
theorem run_fillBody_of_resolved {resolved : Text} {ledger : Ledger}
    (h : (resolveDirectives budget body vars).run .empty = .ok resolved ledger) :
    (fillBody budget body vars metadata).run .empty = match substitute resolved vars metadata with
      | .error why => .error (.value why) ledger
      | .ok filled => match ledger.slots.restore filled with
        | .error count => .error (.overlongToken count) ledger
        | .ok document => .ok document ledger := by
  rw [fillBody, Resolve.run_bind_ok h]
  cases substitute resolved vars metadata with
  | error why => rfl
  | ok filled =>
    have hget : EStateM.run (get : Resolve Ledger) ledger = .ok ledger ledger := rfl
    simp only
    rw [Resolve.run_bind_ok hget]
    cases ledger.slots.restore filled <;> rfl

/-- Putting texts back fails where texts are held and a token is too long. -/
theorem restore_eq_error_iff {slots : Slots} {filled : Text} {count : Nat} :
    slots.restore filled = .error count ↔ slots ≠ [] ∧ Slots.overlong? filled = some count := by
  cases slots with
  | nil => simp [Slots.restore]
  | cons u us => cases hlong : Slots.overlong? filled <;> simp [Slots.restore, hlong]

/-- The faults that stop the filling of a body are those that it ends with. -/
theorem run_fillBody_eq_error_iff {fault : Fault} :
    (∃ ledger, (fillBody budget body vars metadata).run .empty = .error fault ledger) ↔
      Stops budget body vars metadata fault := by
  constructor
  · rintro ⟨ledger, hrun⟩
    cases hres : (resolveDirectives budget body vars).run .empty with
    | error fault' ledger' =>
      have hstop : (fillBody budget body vars metadata).run .empty = .error fault' ledger' :=
        Resolve.run_bind_error hres _
      rw [hstop] at hrun
      cases hrun
      exact .resolving hres
    | ok resolved ledger' =>
      rw [run_fillBody_of_resolved hres] at hrun
      cases hsub : substitute resolved vars metadata with
      | error why =>
        rw [hsub] at hrun
        cases hrun
        exact .filling hres hsub
      | ok filled =>
        rw [hsub] at hrun
        cases hput : ledger'.slots.restore filled with
        | ok document =>
          simp only [hput] at hrun
          cases hrun
        | error count =>
          simp only [hput] at hrun
          cases hrun
          obtain ⟨hheld, hlong⟩ := restore_eq_error_iff.1 hput
          exact .restoring hres hsub hheld hlong
  · intro hstops
    cases hstops with
    | @resolving fault ledger hres => exact ⟨ledger, Resolve.run_bind_error hres _⟩
    | @filling resolved ledger why hres hsub => exact ⟨ledger, by rw [run_fillBody_of_resolved hres, hsub]⟩
    | @restoring resolved filled ledger count hres hsub hheld hlong =>
      have hput : ledger.slots.restore filled = .error count := restore_eq_error_iff.2 ⟨hheld, hlong⟩
      exact ⟨ledger, by rw [run_fillBody_of_resolved hres, hsub]; simp only [hput]⟩

/-- The tokens of a template are never too long, where no value can be taken for one and no more texts are held than
tokens can number. -/
theorem not_overlong_of_unforged {m : Markup} (hm : m.WellFormed) (hslots : Slots.Unforged vars metadata)
    {resolved filled : Text} {ledger : Ledger}
    (hres : (resolveDirectives budget m.print vars).run .empty = .ok resolved ledger)
    (hsub : substitute resolved vars metadata = .ok filled) (hcount : ledger.slots.length ≤ digitBound) :
    Slots.overlong? filled = none := by
  obtain ⟨value, after, hg, hshows⟩ := hslots.guard
  have hissued : Issued ledger.slots.length resolved := issued_resolveDirectives hm hres
  have hwoven := Slots.woven_of_issued hg hshows resolved hissued
  rw [Slots.Woven, hsub] at hwoven
  exact hwoven.2.2.trans (Slots.overlong?_of_issued hissued hcount)

/-- The length of a token of too many digits is noticed behind another token. -/
theorem overlong?_of_digits (i : Nat) {digits : Text} (hdigits : ∀ c ∈ digits, Text.isDigit c = true)
    (hi : i < digitBound) (hlong : digitLimit < digits.length) :
    Slots.overlong? (slotToken i ++ slotOpen :: (digits ++ [slotClose])) = some digits.length := by
  have hne : digits ≠ [] := List.ne_nil_of_length_pos (Nat.zero_lt_of_lt hlong)
  have hread : Text.pieces slotDigits? (slotOpen :: (digits ++ [slotClose])) = _ :=
    Text.pieces_of_some (slotDigits?_digits hne hdigits [])
  rw [Slots.overlong?_slotToken_append hi, Slots.overlong?_eq, hread, List.findSome?_cons, Slots.longPiece?,
    if_pos hlong]

/-- A row, and a value that is a token of these digits. -/
def numberedContext (digits : Text) : Context where
  vars := [(.str "rows".text, .list [.str "Ada".text]),
    (.str "sign".text, .str (slotOpen :: (digits ++ [slotClose])))]
  metadata := ⟨.str "now".text, .str Metadata.defaultVersion, .str Metadata.defaultSource⟩

/-- The row is held, and the placeholder of the sign is left. -/
theorem resolve_signed (digits : Text) :
    (resolveDirectives defaultPasses.val signed.body (numberedContext digits).vars).run .empty
      = .ok (text (slotToken 0) (slot "sign")).print ⟨["Ada".text], 0⟩ := by
  have hm : (forEach "rows" (slot "this") ++ slot "sign").WellFormed :=
    ⟨by decide, ⟨by decide, by decide, trivial⟩, by decide, by decide, trivial⟩
  have hallowance : 2 ≤ depthAllowance (forEach "rows" (slot "this") ++ slot "sign").print :=
    loopDepth_lt_depthAllowance (forEach "rows" (slot "this") ++ slot "sign")
  obtain ⟨depth, hdepth⟩ := Nat.exists_eq_add_of_le' hallowance
  have hrun : (resolve defaultPasses.val (depth + 2) (.outer (numberedContext digits).vars)
      (forEach "rows" (slot "this") ++ slot "sign")).run .empty
        = .ok (text (slotToken 0) (slot "sign")) ⟨["Ada".text], 0⟩ := rfl
  rw [signed, resolveDirectives_print hm.braceFree, hdepth, Resolve.run_map, hrun]

/-- A value that is a token of too many digits stops the render, although the body is resolved and filled. -/
theorem overlong_sign_stops {digits : Text} (hdigits : ∀ c ∈ digits, Text.isDigit c = true)
    (hlong : digitLimit < digits.length) :
    Fills defaultPasses.val signed.body (numberedContext digits).vars (numberedContext digits).metadata ∧
    Stops defaultPasses.val signed.body (numberedContext digits).vars (numberedContext digits).metadata
      (.overlongToken digits.length) := by
  have hsub : substitute (text (slotToken 0) (slot "sign")).print (numberedContext digits).vars
      (numberedContext digits).metadata = .ok (slotToken 0 ++ slotOpen :: (digits ++ [slotClose])) := by
    have hflat : (text (slotToken 0) (slot "sign")).Flat := trivial
    have hformed : (text (slotToken 0) (slot "sign")).Formed Text.BraceFree :=
      ⟨braceFree_slotToken 0, by decide, by decide, trivial⟩
    rw [substitute_print hflat hformed, ← List.append_nil (slotOpen :: _)]
    rfl
  exact ⟨⟨_, _, _, resolve_signed digits, hsub⟩, .restoring (resolve_signed digits) hsub (List.cons_ne_nil _ _)
    (overlong?_of_digits 0 hdigits digitBound_pos hlong)⟩

end Stops

/-! ## Outcomes -/

/-- Why a render with missing variables fails. -/
def absentMessage (absent : List Text) : Text := "missing required variables: ".text ++ Text.join ", ".text absent

/-- What a render comes to, told by the history of the changes that made the registry. -/
structure Classified (e : Engine) (changes : History) (name : Text) (context : Context) : Prop where
  /-- Overrides win over given values, and these over defaults. -/
  values {t : Template} : changes.get? name = some t → ∀ n,
    (e.effectiveVariables t context.vars).get? n = changes.value? name context.vars n
  /-- No template is found exactly if the name is neither customized nor registered. -/
  notFound : e.render name context = .error (.notFound name) ↔
    changes.cover? name = none ∧ changes.template? name = none
  /-- A render fails without a cause exactly if required names have no value, and it lists them. -/
  absent (why : Text) : e.render name context = .error (.render name why none) ↔
    changes.absent name context.vars ≠ [] ∧ why = absentMessage (changes.absent name context.vars)
  /-- Otherwise it fails with a cause exactly if a stage of it stops with that fault. -/
  stopped (why : Text) (fault : Fault) : e.render name context = .error (.render name why (some fault)) ↔
    (∃ t, changes.get? name = some t ∧ changes.absent name context.vars = [] ∧
      Stops e.passes.val t.body (e.effectiveVariables t context.vars) context.metadata fault) ∧
    why = if fault.message.isEmpty then faultKind fault else fault.message
  /-- In all other cases there is a document. -/
  rendered : (∃ document, e.render name context = .ok document) ↔
    ∃ t, changes.get? name = some t ∧ changes.absent name context.vars = [] ∧
      ∀ fault, ¬Stops e.passes.val t.body (e.effectiveVariables t context.vars) context.metadata fault
  /-- There are no other errors. -/
  only {error : TemplateError} : e.render name context = .error error →
    error = .notFound name ∨ ∃ why cause, error = .render name why cause

section Outcomes

variable {e : Engine} {h : History} {name : Text} {t : Template} {context : Context}

theorem render_of_absent (hget : e.registry.get? name = some t) {absent : List Text}
    (hmissing : missing t (e.effectiveVariables t context.vars) = absent) (habsent : absent ≠ []) :
    e.render name context = .error (.render name (absentMessage absent) none) := by
  have hsome : (!absent.isEmpty) = true := by simpa using habsent
  unfold render attempt absentMessage
  simp only [hget, hmissing, if_pos hsome]

/-- A render of a template whose required names have values is the filling of its body. -/
theorem render_of_present (context : Context) (hget : e.registry.get? name = some t)
    (hpresent : missing t (e.effectiveVariables t context.vars) = []) :
    (∃ document, e.render name context = .ok document ∧
      ∀ fault, ¬Stops e.passes.val t.body (e.effectiveVariables t context.vars) context.metadata fault) ∨
    ∃ fault, e.render name context = .error (renderFault name fault) ∧
      ∀ fault', Stops e.passes.val t.body (e.effectiveVariables t context.vars) context.metadata fault' ↔
        fault' = fault := by
  rw [render_eq hget hpresent]
  simp only [← run_fillBody_eq_error_iff]
  cases (fillBody e.passes.val t.body (e.effectiveVariables t context.vars) context.metadata).run .empty with
  | ok document ledger => exact .inl ⟨document, rfl, fun fault ⟨_, herror⟩ => by cases herror⟩
  | error fault ledger =>
    refine .inr ⟨fault, rfl, fun fault' => ⟨fun ⟨_, herror⟩ => ?_, ?_⟩⟩
    · cases herror
      rfl
    · rintro rfl
      exact ⟨ledger, rfl⟩

section Cases

variable (hr : e.registry.Records h)

include hr

theorem classified_of_none (hget : h.get? name = none) : e.Classified h name context := by
  have hrender : e.render name context = .error (.notFound name) := by
    rw [render, attempt, hr.get?, hget]
  have hfound : ∀ t, h.get? name ≠ some t := fun t ht => by
    rw [hget] at ht
    cases ht
  exact {
    values := fun ht => absurd ht (hfound _)
    notFound := iff_of_true hrender (History.get?_eq_none_iff.1 hget)
    absent := fun why => iff_of_false (by simp [hrender]) (by simp [History.absent, hget])
    stopped := fun why fault => iff_of_false (by simp [hrender]) (by
      rintro ⟨⟨t, ht, -⟩, -⟩
      exact hfound t ht)
    rendered := iff_of_false (by simp [hrender]) (by
      rintro ⟨t, ht, -⟩
      exact hfound t ht)
    only := fun herror => .inl (by simpa [hrender] using herror.symm) }

variable (hget : h.get? name = some t)

include hget

omit hr in
theorem not_notFound : ¬(h.cover? name = none ∧ h.template? name = none) := fun hnone => by
  rw [History.get?_eq_none_iff.2 hnone] at hget
  cases hget

theorem classified_of_absent (habsent : h.absent name context.vars ≠ []) : e.Classified h name context := by
  have hrender : e.render name context = .error (.render name (absentMessage (h.absent name context.vars)) none) :=
    render_of_absent ((hr.get? name).trans hget) (missing_eq_absent hr hget) habsent
  exact {
    values := fun ht n => get?_effectiveVariables hr ht n
    notFound := iff_of_false (by simp [hrender]) (not_notFound hget)
    absent := fun why => by simp [hrender, habsent, eq_comm]
    stopped := fun why fault => iff_of_false (by simp [hrender]) (by
      rintro ⟨⟨t, -, hnone, -⟩, -⟩
      exact habsent hnone)
    rendered := iff_of_false (by simp [hrender]) (by
      rintro ⟨t, -, hnone, -⟩
      exact habsent hnone)
    only := fun herror => .inr ⟨_, none, by simpa [hrender] using herror.symm⟩ }

theorem classified_of_present (hpresent : h.absent name context.vars = []) : e.Classified h name context := by
  have hsome : ∀ {t'}, h.get? name = some t' → t' = t := fun ht' => Option.some.inj (ht'.symm.trans hget)
  rcases render_of_present context ((hr.get? name).trans hget)
    ((missing_eq_absent hr hget).trans hpresent) with ⟨document, hrender, hstops⟩ | ⟨fault, hrender, hstops⟩
  · exact {
      values := fun ht n => get?_effectiveVariables hr ht n
      notFound := iff_of_false (by simp [hrender]) (not_notFound hget)
      absent := fun why => iff_of_false (by simp [hrender]) fun habsent => habsent.1 hpresent
      stopped := fun why fault => iff_of_false (by simp [hrender]) (by
        rintro ⟨⟨t', ht', -, hstop⟩, -⟩
        cases hsome ht'
        exact hstops fault hstop)
      rendered := iff_of_true ⟨document, hrender⟩ ⟨t, hget, hpresent, hstops⟩
      only := fun herror => by simp [hrender] at herror }
  · exact {
      values := fun ht n => get?_effectiveVariables hr ht n
      notFound := iff_of_false (by simp [hrender, renderFault]) (not_notFound hget)
      absent := fun why => iff_of_false (by simp [hrender, renderFault]) fun habsent => habsent.1 hpresent
      stopped := fun why fault' => by
        constructor
        · intro herror
          have hsame : renderFault name fault = .render name why (some fault') :=
            Except.error.inj (hrender.symm.trans herror)
          cases hsame
          exact ⟨⟨t, hget, hpresent, (hstops fault).2 rfl⟩, rfl⟩
        · rintro ⟨⟨t', ht', -, hstop⟩, rfl⟩
          cases hsome ht'
          cases (hstops fault').1 hstop
          exact hrender
      rendered := iff_of_false (by simp [hrender]) (by
        rintro ⟨t', ht', -, hnone⟩
        cases hsome ht'
        exact hnone fault ((hstops fault).2 rfl))
      only := fun herror => .inr ⟨_, some fault, by simpa [hrender, renderFault] using herror.symm⟩ }

end Cases

/-- **What a render comes to**, for every registry that changes make, every name and every context: no template is
found, required names have no value, a stage stops with a fault that becomes the cause of the error, or there is a
document. Each happens exactly under its own condition, and nothing else happens. The engine is the same before and
after, since a render gives nothing but its document and its notices. -/
theorem render_outcomes (changes : History) (passes : PassBudget) (name : Text) (context : Context) :
    Classified ⟨Registry.empty.after changes, passes⟩ changes name context := by
  have hr : (Registry.empty.after changes).Records changes := Registry.records_empty.after changes
  cases hget : changes.get? name with
  | none => exact classified_of_none hr hget
  | some t =>
    by_cases habsent : changes.absent name context.vars = []
    · exact classified_of_present hr hget habsent
    · exact classified_of_absent hr hget habsent

end Outcomes

end Engine

end Stencil
