import Stencil.Template.Registry

/-!
# Which drafts pass

* A draft is valid exactly if it has no problems, and an invalid one is reported with all of them
  (`TemplateDraft.validate_cases`, `CustomizationDraft.validate_cases`).
* What a valid draft makes is valid again (`TemplateDraft.validate_ofTemplate`,
  `CustomizationDraft.validate_ofCustomization`).
-/

namespace Stencil

theorem nonBlank?_eq_some {v : Value} {t : Text} (h : nonBlank? v = some t) : v = .str t := by
  cases v with
  | str u =>
    rw [nonBlank?] at h
    split at h <;> cases h
    rfl
  | _ => cases h

theorem nonBlank?_str {v : Value} {t : Text} (h : nonBlank? v = some t) : nonBlank? (.str t) = some t :=
  nonBlank?_eq_some h ▸ h

/-! ## Templates -/

namespace TemplateDraft

theorem kind?_name (k : Kind) : kind? (.str k.name) = some k := by cases k <;> decide

/-- Declarations have no problems exactly if all of them have a name. -/
theorem variableProblems_eq_nil_iff : ∀ (index : Nat) (vs : List VariableDraft),
    variableProblems index vs = [] ↔ ∃ declared, vs.mapM declaration? = some declared
  | _, [] => by simp [variableProblems]
  | index, v :: vs => by
    have ih := variableProblems_eq_nil_iff (index + 1) vs
    cases hname : nonBlank? v.name with
    | none => simp [variableProblems, List.mapM_cons, declaration?, hname]
    | some name =>
      simp only [variableProblems, hname, Option.isNone_some, Bool.false_eq_true, if_false, ih, List.mapM_cons,
        declaration?, Option.map_some]
      cases vs.mapM declaration? <;> simp

/-- A declaration with a name passes as it is. -/
theorem declaration?_named {d : VariableDraft} {v : Variable} (h : declaration? d = some v) :
    declaration? ⟨.str v.name, v.type, v.required, v.description, v.default⟩ = some v := by
  obtain ⟨name, hname, rfl⟩ := Option.map_eq_some_iff.1 h
  simp only [declaration?, nonBlank?_str hname, Option.map_some]

theorem mapM_declaration?_named : ∀ {ds : List VariableDraft} {vs : List Variable},
    ds.mapM declaration? = some vs →
      (vs.map fun v => ⟨.str v.name, v.type, v.required, v.description, v.default⟩).mapM declaration? = some vs
  | [], vs, h => by
    cases h
    rfl
  | d :: ds, vs, h => by
    simp only [List.mapM_cons, Option.bind_eq_bind, Option.bind_eq_some_iff, Option.pure_def, Option.some.injEq] at h
    obtain ⟨v, hv, rest, hrest, rfl⟩ := h
    simp only [List.map_cons, List.mapM_cons, declaration?_named hv, mapM_declaration?_named hrest]
    rfl

/-- A draft is valid if it has no problems, and otherwise all of them are reported. -/
theorem validate_cases (d : TemplateDraft) :
    (∃ t, d.validate = .ok t ∧ d.problems = []) ∨ (d.validate = .error d.problems ∧ d.problems ≠ []) := by
  have hdeclared := variableProblems_eq_nil_iff 0 d.declared
  unfold validate problems
  cases hname : nonBlank? d.name with
  | none => exact .inr ⟨rfl, by simp⟩
  | some name =>
    cases hkind : kind? d.kind with
    | none => exact .inr ⟨rfl, by simp⟩
    | some kind =>
      cases hbody : nonBlank? d.body with
      | none => exact .inr ⟨rfl, by simp⟩
      | some body =>
        cases hvars : d.declared.mapM declaration? with
        | none =>
          rw [hvars] at hdeclared
          exact .inr ⟨rfl, by simp [hdeclared]⟩
        | some declared => exact .inl ⟨_, rfl, by simp [hdeclared.2 ⟨declared, hvars⟩]⟩

/-- What a valid draft makes is valid. -/
theorem validate_ofTemplate {d : TemplateDraft} {t : Template} (h : d.validate = .ok t) :
    (ofTemplate t).validate = .ok t := by
  unfold validate at h
  split at h
  · rename_i name kind body declared hname hkind hbody hdeclared
    cases h
    simp only [validate, ofTemplate, nonBlank?_str hname, kind?_name, nonBlank?_str hbody,
      mapM_declaration?_named hdeclared]
  · cases h

theorem problems_ofTemplate {d : TemplateDraft} {t : Template} (h : d.validate = .ok t) :
    (ofTemplate t).problems = [] := by
  rcases validate_cases (ofTemplate t) with ⟨_, _, hp⟩ | ⟨herror, _⟩
  · exact hp
  · rw [validate_ofTemplate h] at herror
    cases herror

end TemplateDraft

/-! ## Customizations -/

namespace CustomizationDraft

/-- A draft is valid if it has no problems, and otherwise all of them are reported. -/
theorem validate_cases (d : CustomizationDraft) :
    (∃ c, d.validate = .ok c ∧ d.problems = []) ∨ (d.validate = .error d.problems ∧ d.problems ≠ []) := by
  unfold validate problems
  cases hname : nonBlank? d.name with
  | none => exact .inr ⟨rfl, by simp⟩
  | some name =>
    cases hbody : nonBlank? d.body with
    | none => exact .inr ⟨rfl, by simp⟩
    | some body => exact .inl ⟨_, rfl, by simp⟩

/-- What a valid draft makes is valid. -/
theorem validate_ofCustomization {d : CustomizationDraft} {c : Customization} (h : d.validate = .ok c) :
    (ofCustomization c).validate = .ok c := by
  unfold validate at h
  split at h
  · rename_i name body hname hbody
    cases h
    simp only [validate, ofCustomization, nonBlank?_str hname, nonBlank?_str hbody]
  · cases h

theorem problems_ofCustomization {d : CustomizationDraft} {c : Customization} (h : d.validate = .ok c) :
    (ofCustomization c).problems = [] := by
  rcases validate_cases (ofCustomization c) with ⟨_, _, hp⟩ | ⟨herror, _⟩
  · exact hp
  · rw [validate_ofCustomization h] at herror
    cases herror

end CustomizationDraft

end Stencil
