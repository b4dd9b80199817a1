import Stencil.Template.Registry

/-!
# Histories of a registry

* **Changes** (`Change`): what may be done to a registry. One that fails leaves it as it is (`Registry.change`).
* **Histories** (`Registry.after`): changes one after the other. `lastCover?` and `lastTemplate?` read from a history
  alone which customization and which template a name has.
* **Requests** (`Registry.Request`): the changes and the questions that a registry answers. The answers are those of
  its entries (`Registry.answer`), or they are read from the history of the changes before (`History.answer`).
-/

namespace Stencil

/-- A change of a registry. -/
inductive Change where
  | register (d : TemplateDraft)
  | customize (d : CustomizationDraft)
  | remove (name : Text)

namespace Registry

/-- The registry after a change. -/
def change (r : Registry) : Change → Registry
  | .register d =>
    match r.register d with
    | .ok r' => r'
    | .error _ => r
  | .customize d =>
    match r.customize d with
    | .ok r' => r'
    | .error _ => r
  | .remove name => (r.removeCustom name).1

/-- The registry after changes, the first one first. -/
def after (r : Registry) (changes : List Change) : Registry := changes.foldl change r

end Registry

/-- The customization that a name has after changes, the last one first. -/
def lastCover? (name : Text) : List Change → Option Customization
  | [] => none
  | .register _ :: before => lastCover? name before
  | .customize d :: before =>
    match d.validate with
    | .ok c => if c.name = name then some c else lastCover? name before
    | .error _ => lastCover? name before
  | .remove other :: before => if other = name then none else lastCover? name before

/-- The template that is registered under a name after changes, the last one first. -/
def lastTemplate? (name : Text) : List Change → Option Template
  | [] => none
  | .register d :: before =>
    match d.validate with
    | .ok t => if t.name = name then some t else lastTemplate? name before
    | .error _ => lastTemplate? name before
  | _ :: before => lastTemplate? name before

/-! ## Requests -/

namespace Registry

/-- What may be asked of a registry. -/
inductive Request where
  | change (c : Change)
  | get (name : Text)
  | getCustom (name : Text)
  | list
  | listCustom

/-- What is answered to a request. -/
inductive Answer where
  /-- The draft is registered or put in place. -/
  | done
  /-- The draft has problems. -/
  | refused (e : TemplateError)
  /-- Whether there was a customization to remove. -/
  | removed (found : Bool)
  | template (t : Option Template)
  | customization (c : Option Customization)
  | templates (ts : List Template)
  | customizations (cs : List Customization)

/-- The answers to requests, one after the other, given what is answered in a state and what a request makes of it. -/
def Request.answers {σ : Type} (next : σ → Request → σ) (answer : σ → Request → Answer) : σ → List Request → List Answer
  | _, [] => []
  | state, q :: qs => answer state q :: answers next answer (next state q) qs

/-- What a registry answers to a request. -/
def answer (r : Registry) : Request → Answer
  | .change (.register d) =>
    match r.register d with
    | .ok _ => .done
    | .error e => .refused e
  | .change (.customize d) =>
    match r.customize d with
    | .ok _ => .done
    | .error e => .refused e
  | .change (.remove name) => .removed (r.removeCustom name).2
  | .get name => .template (r.get? name)
  | .getCustom name => .customization (r.getCustom? name)
  | .list => .templates r.list
  | .listCustom => .customizations r.listCustom

/-- The registry after a request. -/
def next (r : Registry) : Request → Registry
  | .change c => r.change c
  | _ => r

end Registry

/-! ## Answers of a history -/

/-- The template that a change registers. -/
def Change.template? : Change → Option Template
  | register d => d.validate.toOption
  | _ => none

/-- The customization that a change puts in place. -/
def Change.cover? : Change → Option Customization
  | customize d => d.validate.toOption
  | _ => none

/-- Whether a change removes the customization of a name. -/
def Change.removes (name : Text) : Change → Bool
  | remove other => decide (name = other)
  | _ => false

/-- The changes of a registry so far, the first one first. -/
abbrev History := List Change

namespace History

/-- The customization of a name: the last one put in place, unless it was removed after that. -/
def cover? (h : History) (name : Text) : Option Customization := lastCover? name h.reverse

/-- The template registered last under a name. -/
def template? (h : History) (name : Text) : Option Template := lastTemplate? name h.reverse

/-- The names of the registered templates, each in the place of its first registration. -/
def registeredNames (h : History) : List Text := ((h.filterMap Change.template?).map (·.name)).eraseDups

/-- The customizations put in place of names that were not removed later. -/
def standing : History → List Customization
  | [] => []
  | c :: later =>
    match c.cover? with
    | some x => if later.any (Change.removes x.name) then standing later else x :: standing later
    | none => standing later

/-- The customized names, each in the place where it was first put since its last removal. -/
def coveredNames (h : History) : List Text := (h.standing.map (·.name)).eraseDups

/-- A customization seen as a template: of the kind of the template registered last under its name, or generic. -/
def asTemplate (h : History) (c : Customization) : Template :=
  ⟨c.name, ((h.template? c.name).map (·.kind)).getD .generic, c.body, []⟩

/-- The template that a name stands for. -/
def get? (h : History) (name : Text) : Option Template := ((h.cover? name).map h.asTemplate).or (h.template? name)

/-- The customizations in order. -/
def listCustom (h : History) : List Customization := h.coveredNames.filterMap h.cover?

/-- The templates in order, and after them the customizations as templates. -/
def list (h : History) : List Template := h.registeredNames.filterMap h.template? ++ h.listCustom.map h.asTemplate

/-- What is answered to a draft of a name with the problems that it has. -/
def answerDraft (name : Value) (problems : List Problem) : Registry.Answer :=
  if problems.isEmpty then .done else .refused (.invalid name (problems.map Problem.message))

/-- What is answered to a request after the changes of the history. -/
def answer (h : History) : Registry.Request → Registry.Answer
  | .change (.register d) => answerDraft d.name d.problems
  | .change (.customize d) => answerDraft d.name d.problems
  | .change (.remove name) => .removed (h.cover? name).isSome
  | .get name => .template (h.get? name)
  | .getCustom name => .customization (h.cover? name)
  | .list => .templates h.list
  | .listCustom => .customizations h.listCustom

/-- The history after a request. -/
def next (h : History) : Registry.Request → History
  | .change c => h ++ [c]
  | _ => h

end History

end Stencil
