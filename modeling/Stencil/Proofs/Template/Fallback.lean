import Stencil.Proofs.Results
import Stencil.Proofs.Template.Histories
import Stencil.Proofs.Text.Blanks
import Stencil.Proofs.Value.Fields
import Stencil.Template.Engine

/-!
# Rendering with a fallback

* **Tries** (`Engine.renderFirst`): renders in one context after the other, up to the first document or the last error.
* **Default documents** (`notFoundDocument`, `recoveryDocument`): their texts, under the title that a name gives them
  (`TitledAs`).
* **Ends** (`Engine.FallbackEnds`): a render with a fallback always gives a document, that of its tries or a default one
  (`Engine.renderWithFallback_ends`). The template is not found exactly where the changes of the registry leave the name
  without a customization and without a template.
-/

namespace Stencil

namespace Engine

/-! ## Tries -/

/-- What rendering in one context after the other comes to: the first document, or the error of the last try. -/
def renderFirst (e : Engine) (name : Text) (context : Context) : List Context → Except TemplateError Text
  | [] => e.render name context
  | next :: later =>
    match e.render name context with
    | .ok document => .ok document
    | .error _ => renderFirst e name next later

/-- The contexts of further tries: one with the fallback variables, if there are any. -/
def retries (context : Context) : Option Fields → List Context
  | some (entry :: entries) => [context.withVariables (entry :: entries)]
  | _ => []

/-- The document of tries, or else the default document of their error. -/
def documentOf (name time : Text) : Except TemplateError Text → Text
  | .ok document => document
  | .error error => defaultDocument name error time

variable {e : Engine} {name : Text} {context : Context} {error : TemplateError}

/-- An error of the tries is that of a render. -/
theorem render_of_renderFirst : ∀ {later : List Context} {context : Context},
    e.renderFirst name context later = .error error → ∃ last, e.render name last = .error error
  | [], context, h => ⟨context, h⟩
  | next :: later, context, h => by
    rw [renderFirst] at h
    split at h
    · cases h
    · exact render_of_renderFirst h

/-! ## Errors -/

/-- A render finds no template exactly where the registry has none of the name. -/
theorem isNotFound_of_render (h : e.render name context = .error error) :
    error.isNotFound = true ↔ e.registry.get? name = none := by
  unfold render attempt at h
  split at h
  · rename_i hget
    cases h
    simp [TemplateError.isNotFound, hget]
  · rename_i t hget
    have hother : error.isNotFound = false := by
      dsimp only at h
      split at h
      · cases h
        rfl
      · split at h
        · cases h
        · cases h
          rfl
    simp [hother, hget]

end Engine

/-- A name stands for no template exactly if it is neither customized nor registered. -/
theorem History.get?_eq_none_iff {h : History} {name : Text} :
    h.get? name = none ↔ h.cover? name = none ∧ h.template? name = none := by
  rw [History.get?, Option.or_eq_none_iff, Option.map_eq_none_iff]

namespace Registry

theorem Records.get?_eq_none_iff {r : Registry} {h : History} (hr : r.Records h) (name : Text) :
    r.get? name = none ↔ h.cover? name = none ∧ h.template? name = none := by
  rw [hr.get?, History.get?_eq_none_iff]

end Registry

/-! ## Default documents -/

/-- The title of a default document: the name without the blanks around it, if anything is left of it. -/
inductive TitledAs (name : Text) : Text → Prop
  | name {title : Text} : name.Trimmed title → title ≠ [] → TitledAs name title
  | untitled : name.Trimmed [] → TitledAs name "untitled".text

theorem titledAs_documentTitle (name : Text) : TitledAs name (documentTitle name) := by
  have htrimmed := name.trimmed_strip
  unfold documentTitle
  cases hstrip : name.strip with
  | nil =>
    rw [hstrip] at htrimmed
    exact .untitled htrimmed
  | cons c cs =>
    rw [hstrip] at htrimmed
    exact .name htrimmed (List.cons_ne_nil c cs)

/-- The default document of a title whose template is not there. -/
def notFoundDocument (title time : Text) : Text :=
  "# ".text ++ title ++ "\n\n".text ++
    "This documentation was generated using a default template because the requested template was not found.".text ++
    "\n\n## Content\n\nPlease customize this template to match your project's needs.".text ++
    "\n\n---\n*Generated on ".text ++ time ++ " using default template fallback*\n".text

/-- The default document of a title whose template failed. -/
def recoveryDocument (title time : Text) : Text :=
  "# ".text ++ title ++ "\n\n".text ++
    "An error occurred while rendering the template. This is fallback content.".text ++
    "\n\n---\n*Generated on ".text ++ time ++ " using error recovery*\n".text

theorem defaultDocument_of_isNotFound {error : TemplateError} (h : error.isNotFound = true) (name time : Text) :
    defaultDocument name error time = notFoundDocument (documentTitle name) time := by
  have hending : " ".text ++ "using default template fallback".text ++ "*\n".text =
      " using default template fallback*\n".text := by decide
  unfold defaultDocument notFoundDocument notFoundNote
  rw [if_pos h, if_pos h, ← hending]
  simp only [List.append_assoc]

theorem defaultDocument_of_other {error : TemplateError} (h : error.isNotFound = false) (name time : Text) :
    defaultDocument name error time = recoveryDocument (documentTitle name) time := by
  have hending : " ".text ++ "using error recovery".text ++ "*\n".text = " using error recovery*\n".text := by decide
  have hnot : ¬error.isNotFound = true := Bool.eq_false_iff.1 h
  unfold defaultDocument recoveryDocument failedNote
  rw [if_neg hnot, if_neg hnot, ← hending]
  simp only [List.append_assoc]

namespace Engine

/-! ## Documents -/

theorem documentTime_str (stamp : Text) (version source : Value) (now : Text) :
    documentTime ⟨.str stamp, version, source⟩ now = .ok (if stamp.isEmpty then now else stamp) := by
  cases stamp <;> rfl

/-- The document of a render with a fallback is that of its tries, or the default document of the last error. -/
theorem document_renderWithFallback (e : Engine) (name : Text) (vars : Fields) (stamp : Text) (version source : Value)
    (fallback : Option Fields) (now : Text) :
    let context : Context := ⟨vars, ⟨.str stamp, version, source⟩⟩
    (e.renderWithFallback name context fallback now).1 =
      .ok (documentOf name (if stamp.isEmpty then now else stamp)
        (e.renderFirst name context (retries context fallback))) := by
  intro context
  have hnoting : ∀ c, e.renderNoting name c = (e.render name c, e.spentNotices (e.attempt name c).2) := fun _ => rfl
  have htime : documentTime context.metadata now = .ok (if stamp.isEmpty then now else stamp) :=
    documentTime_str stamp version source now
  simp only [renderWithFallback, hnoting, htime, Except.map]
  cases hfirst : e.render name context with
  | ok document => rcases fallback with _ | _ | _ <;> simp [retries, renderFirst, hfirst, documentOf]
  | error first =>
    rcases fallback with _ | _ | ⟨entry, entries⟩
    · simp [retries, renderFirst, hfirst, documentOf]
    · simp [retries, renderFirst, hfirst, documentOf]
    · cases hsecond : e.render name (context.withVariables (entry :: entries)) <;>
        simp [retries, renderFirst, hfirst, hsecond, documentOf]

section Ends

variable (e : Engine) (name : Text) (context : Context) (extra merged : Fields)

/-- A render fails, and so does a second one with the merged variables if there are any to merge. -/
structure AllFail : Prop where
  first : ∃ error, e.render name context = .error error
  second : extra ≠ [] → ∃ error, e.render name ⟨merged, context.metadata⟩ = .error error

/-- How a render with a fallback ends: `extra` are the fallback variables, `merged` those of the second try, and `time`
is that of a default document. Whether there is a template is read from the history of the registry. -/
inductive FallbackEnds (h : History) (time : Text) : Text → Prop
  | first {document : Text} : e.render name context = .ok document → FallbackEnds h time document
  | second {error : TemplateError} {document : Text} : e.render name context = .error error → extra ≠ [] →
    e.render name ⟨merged, context.metadata⟩ = .ok document → FallbackEnds h time document
  | notFound {title : Text} : AllFail e name context extra merged → h.cover? name = none ∧ h.template? name = none →
    TitledAs name title → FallbackEnds h time (notFoundDocument title time)
  | failed {title : Text} : AllFail e name context extra merged → ¬(h.cover? name = none ∧ h.template? name = none) →
    TitledAs name title → FallbackEnds h time (recoveryDocument title time)

variable {e name context extra merged}

/-- Where all tries fail, the default document of the last error tells whether there is a template. -/
theorem fallbackEnds_of_allFail {h : History} (hr : e.registry.Records h) (hfail : AllFail e name context extra merged)
    {last : Context} {error : TemplateError} (hlast : e.render name last = .error error) (time : Text) :
    FallbackEnds e name context extra merged h time (defaultDocument name error time) := by
  have hnotFound := (isNotFound_of_render hlast).trans (hr.get?_eq_none_iff name)
  cases hkind : error.isNotFound with
  | true =>
    rw [defaultDocument_of_isNotFound hkind]
    exact .notFound hfail (hnotFound.1 hkind) (titledAs_documentTitle name)
  | false =>
    rw [defaultDocument_of_other hkind]
    refine .failed hfail (fun hnone => ?_) (titledAs_documentTitle name)
    rw [hnotFound.2 hnone] at hkind
    cases hkind

/-- The document of the tries ends a render with a fallback. -/
theorem fallbackEnds {h : History} (hr : e.registry.Records h) (fallback : Option Fields) (time : Text) :
    FallbackEnds e name context (fallback.getD []) (context.vars.update (fallback.getD [])) h time
      (documentOf name time (e.renderFirst name context (retries context fallback))) := by
  cases hfirst : e.render name context with
  | ok document =>
    have htries : e.renderFirst name context (retries context fallback) = .ok document := by
      cases retries context fallback <;> simp [renderFirst, hfirst]
    rw [htries]
    exact .first hfirst
  | error error =>
    have honce : e.renderFirst name context [] = .error error := by rw [renderFirst, hfirst]
    rcases fallback with _ | _ | ⟨entry, entries⟩
    · rw [show retries context none = [] from rfl, honce]
      exact fallbackEnds_of_allFail hr ⟨⟨error, hfirst⟩, fun hextra => absurd rfl hextra⟩ hfirst time
    · rw [show retries context (some []) = [] from rfl, honce]
      exact fallbackEnds_of_allFail hr ⟨⟨error, hfirst⟩, fun hextra => absurd rfl hextra⟩ hfirst time
    · have htries : e.renderFirst name context (retries context (some (entry :: entries))) =
          e.render name ⟨context.vars.update (entry :: entries), context.metadata⟩ := by
        simp only [retries, renderFirst, hfirst]
        rfl
      rw [htries]
      cases hsecond : e.render name ⟨context.vars.update (entry :: entries), context.metadata⟩ with
      | ok document => exact .second hfirst (List.cons_ne_nil entry entries) hsecond
      | error last => exact fallbackEnds_of_allFail hr ⟨⟨error, hfirst⟩, fun _ => ⟨last, hsecond⟩⟩ hsecond time

end Ends

/-- **A render with a fallback always gives a document**, for every registry that changes make, every name and all
variables: that of a render in the context or, if there are fallback variables, that of a second render, where the last
of them for a name wins over the variable of the context; and otherwise a default document. Its title is the name
without the blanks around it, its note says that the template was not found exactly where the changes leave the name
neither customized nor registered, and its time is the one given, or the present one where that is empty. The engine is
the same before and after, since a render gives nothing but its document and its notices. -/
theorem renderWithFallback_ends (changes : History) (passes : PassBudget) (name : Text) (vars : Fields) (stamp : Text)
    (version source : Value) (fallback : Option Fields) (now : Text) :
    let e : Engine := ⟨Registry.empty.after changes, passes⟩
    let context : Context := ⟨vars, ⟨.str stamp, version, source⟩⟩
    let extra : Fields := fallback.getD []
    ∃ merged : Fields, (∀ n, merged.get? n = (extra.last? n).or (vars.get? n)) ∧
    ∃ document, (e.renderWithFallback name context fallback now).1 = .ok document ∧
      FallbackEnds e name context extra merged changes (if stamp = [] then now else stamp) document := by
  intro e context extra
  have hr : e.registry.Records changes := Registry.records_empty.after changes
  have htime : (if stamp.isEmpty then now else stamp) = if stamp = [] then now else stamp := by simp
  rw [← htime]
  exact ⟨vars.update extra, fun n => Fields.get?_update n extra vars, _,
    document_renderWithFallback e name vars stamp version source fallback now, fallbackEnds hr fallback _⟩

/-- A template that needs a name. -/
def cardDraft : TemplateDraft where
  name := .str "card".text
  kind := .str "generic".text
  body := .str "Hello {{who}}{{mark}}".text
  declared := [⟨.str "who".text, "string".text, true, [], .null⟩]

/-- Variables that lack the name. -/
def cardVariables : Fields := [(.str "mark".text, .str "!".text)]

/-- Variables that have it. -/
def cardFallback : Fields := [(.str "who".text, .str "Ada".text), (.str "mark".text, .str "?".text)]

/-- An engine with the template. -/
def cardEngine : Engine := ⟨Registry.empty.after [.register cardDraft], defaultPasses⟩

/-- A context without the name, at a given time or none. -/
def cardContext (stamp : Text) : Context := ⟨cardVariables, ⟨.str stamp, .str "1".text, .str "x".text⟩⟩

/-- The name and the mark are those of the fallback variables. Without these the template fails, and a template of
another name is not there. -/
theorem renderWithFallback_card :
    (∃ merged, merged.get? "mark".text = some (.str "?".text) ∧
      FallbackEnds cardEngine "card".text (cardContext []) cardFallback merged [.register cardDraft] "now".text
        "Hello Ada?".text) ∧
    (∃ merged, FallbackEnds cardEngine "card".text (cardContext []) [] merged [.register cardDraft] "now".text
      (recoveryDocument "card".text "now".text)) ∧
    ∃ merged, FallbackEnds cardEngine " ".text (cardContext "noon".text) [] merged [.register cardDraft]
      "noon".text (notFoundDocument "untitled".text "noon".text) := by
  have hnamed : (cardEngine.renderWithFallback "card".text (cardContext []) (some cardFallback) "now".text).1 =
      .ok "Hello Ada?".text := eq_ok_of_toOption (by decide +kernel)
  have hunnamed : (cardEngine.renderWithFallback "card".text (cardContext []) none "now".text).1 =
      .ok (recoveryDocument "card".text "now".text) := eq_ok_of_toOption (by decide +kernel)
  have hother : (cardEngine.renderWithFallback " ".text (cardContext "noon".text) none "now".text).1 =
      .ok (notFoundDocument "untitled".text "noon".text) := eq_ok_of_toOption (by decide +kernel)
  have hall := renderWithFallback_ends [.register cardDraft] defaultPasses
  refine ⟨?_, ?_, ?_⟩
  · obtain ⟨merged, hmerged, document, hdocument, hends⟩ :=
      hall "card".text cardVariables [] (.str "1".text) (.str "x".text) (some cardFallback) "now".text
    cases hdocument.symm.trans hnamed
    exact ⟨merged, hmerged _, hends⟩
  · obtain ⟨merged, -, document, hdocument, hends⟩ :=
      hall "card".text cardVariables [] (.str "1".text) (.str "x".text) none "now".text
    cases hdocument.symm.trans hunnamed
    exact ⟨merged, hends⟩
  · obtain ⟨merged, -, document, hdocument, hends⟩ :=
      hall " ".text cardVariables "noon".text (.str "1".text) (.str "x".text) none "now".text
    cases hdocument.symm.trans hother
    exact ⟨merged, hends⟩

end Engine

end Stencil
