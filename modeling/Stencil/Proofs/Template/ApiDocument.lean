import Stencil.Proofs.Markup.Site
import Stencil.Proofs.Template.Elements
import Stencil.Proofs.Template.Filling
import Stencil.Proofs.Template.Builtins
import Stencil.Proofs.Value.Shape

/-!
# The description of an interface

* **Fragments** (`Fragment`): what a document is made of, shown values and words without braces.
* **The document** (`Builtin.apiDocument`): a head, a section for each endpoint and a foot. A section is made of its
  endpoint alone (`Builtin.apiSection`), and the line of a parameter of its parameter alone (`Builtin.parameterLine`).
* The built-in description of an interface evaluates to that document (`Builtin.eval_apiDocTree`), and renders to it
  with any budget (`Engine.render_apiDoc`).
-/

namespace Stencil

open Markup

/-! ## Fragments -/

/-- A piece of a document. -/
inductive Fragment where
  /-- Words of the template, in which no directive or placeholder is left. -/
  | words (s : String) (clean : Text.BraceFree s.text := by decide)
  /-- A value that is shown. -/
  | value (v : Value)

namespace Fragment

/-- What a fragment shows. -/
def text : Fragment → Except TextFault Text
  | words s _ => .ok s.text
  | value v => v.printed

/-- What fragments show, one after the other. -/
def join : List Fragment → Except TextFault Text
  | [] => .ok []
  | f :: fs => inTurn f.text (join fs)

theorem join_append (gs : List Fragment) : ∀ fs : List Fragment, join (fs ++ gs) = inTurn (join fs) (join gs)
  | [] => (nil_inTurn _).symm
  | f :: fs => by rw [List.cons_append, join, join, join_append gs fs, inTurn_assoc]

theorem join_flatMap {α : Type} (f : α → List Fragment) : ∀ xs : List α,
    join (xs.flatMap f) = List.flatten <$> xs.mapM fun x => join (f x)
  | [] => rfl
  | x :: xs => by
    rw [List.flatMap_cons, join_append, join_flatMap f xs, List.mapM_cons]
    simp [inTurn]

/-- Fragments whose values all print show a text. -/
theorem join_of_prints {fs : List Fragment} (h : ∀ v, value v ∈ fs → v.HasText) : ∃ t, join fs = .ok t := by
  induction fs with
  | nil => exact ⟨[], rfl⟩
  | cons f fs ih =>
    obtain ⟨t, ht⟩ := ih fun v hv => h v (List.mem_cons_of_mem _ hv)
    obtain ⟨u, hu⟩ : ∃ u, f.text = .ok u := by
      cases f with
      | words s _ => exact ⟨s.text, rfl⟩
      | value v => exact h v List.mem_cons_self
    exact ⟨u ++ t, by rw [join, hu, ht]; rfl⟩

end Fragment

namespace Value

/-- What is made of a field if its value is true. -/
def ifField (v : Value) (name : String) (made : Value → List Fragment) : List Fragment :=
  if (v.field name).isTruthy then made (v.field name) else []

/-- A field if its value is true, and other words if not. -/
def fieldOr (v : Value) (name other : String) (clean : Text.BraceFree other.text := by decide) : Fragment :=
  if (v.field name).isTruthy then .value (v.field name) else .words other clean

end Value

namespace Builtin

/-! ## The document -/

/-- The line of a parameter. -/
def parameterLine (parameter : Value) : List Fragment :=
  [.words "- `", parameter.fieldOr "name" "unnamed", .words "` (", parameter.fieldOr "type" "unknown", .words ")"]
    ++ parameter.ifField "optional" (fun _ => [.words " - Optional"])
    ++ parameter.ifField "description" (fun description => [.words " - ", .value description]) ++ [.words "\n"]

/-- The section of an endpoint. -/
def apiSection (api : Value) : List Fragment :=
  [.words "### ", .value (api.field "name"), .words "\n\n**Method:** ", .value (api.field "method"),
    .words "\n**Path:** ", .value (api.field "path"), .words "\n\n"]
    ++ api.ifField "description" (fun description => [.value description, .words "\n\n"])
    ++ api.ifField "parameters" (fun parameters =>
      .words "**Parameters:**\n" :: (parameters.elements?.getD []).flatMap parameterLine ++ [.words "\n"])
    ++ [.words "**Returns:** ", api.fieldOr "returnType" "unknown", .words "\n\n"]

/-- The head of the document. -/
def apiHead (title description : Value) : List Fragment :=
  [.words "# ", .value title, .words " Documentation\n\n## Overview\n\n",
    if description.isTruthy then .value description else .words "API Documentation", .words "\n\n## Endpoints\n\n"]

/-- The foot of the document. -/
def apiFoot (time : Value) : List Fragment := [.words "---\n*Generated on ", .value time, .words "*\n"]

/-- The sections of the endpoints, or words in their place where there are none. -/
def apiSections : List Value → List Fragment
  | [] => [.words "*No endpoints documented yet.*\n\n"]
  | apis => apis.flatMap apiSection

/-- The document that describes an interface. -/
def apiDocument (title description : Value) (apis : List Value) (time : Value) : List Fragment :=
  apiHead title description ++ apiSections apis ++ apiFoot time

end Builtin

/-! ## Evaluating -/

section Texts

variable (words : String) (clean : Text.BraceFree words.text)

theorem Fragment.text_words : (Fragment.words words clean).text = .ok words.text := rfl

theorem Fragment.text_value (v : Value) : (Fragment.value v).text = v.printed := rfl

theorem Fragment.text_fieldOr (v : Value) (name : String) : (v.fieldOr name words clean).text =
    if (v.field name).isTruthy then (v.field name).printed else .ok words.text := by
  unfold Value.fieldOr
  split <;> rfl

end Texts

theorem Fragment.join_ifField (v : Value) (name : String) (made : Value → List Fragment) :
    join (v.ifField name made) = if (v.field name).isTruthy then join (made (v.field name)) else .ok [] := by
  unfold Value.ifField
  split <;> rfl

section Evaluating

variable {metadata : Metadata} {s : Scope} {index : Nat} {item : Value}

theorem eval_lit (words : String) : (lit words).eval metadata s = .ok words.text := by
  simp [lit, eval]

theorem eval_slot_field (full name : String) (h : full.text = thisPoint ++ name.text) :
    (slot full).eval metadata (s.enter index item) = (item.field name).printed := by
  have hfull : OfElement full.text := .inr (List.isPrefixOf_iff_prefix.2 (h ▸ List.prefix_append _ _))
  rw [slot, eval_place, evalPlace, Scope.shown?_enter_ofElement hfull, Scope.lookup_enter_field h]
  rfl

/-- A bare name shows the field of the element, if the element has it. -/
theorem eval_slot_bare (name : String) (hname : Bare name.text) (h : item.HasField name) :
    (slot name).eval metadata (s.enter index item) = (item.field name).printed := by
  obtain ⟨v, hv⟩ := Option.isSome_iff_exists.1 h
  rw [slot, eval_place, evalPlace, Scope.shown?_enter_bare hname, Value.field, hv]
  rfl

theorem eval_ifElse_field (full name : String) (h : full.text = thisPoint ++ name.text) (yes no : Markup) :
    (ifElse full yes no).eval metadata (s.enter index item) = if (item.field name).isTruthy
      then yes.eval metadata (s.enter index item) else no.eval metadata (s.enter index item) := by
  rw [ifElse, eval_choice, Scope.holds, Scope.lookup_enter_field h]
  rfl

theorem eval_onlyIf_field (full name : String) (h : full.text = thisPoint ++ name.text) (yes : Markup) :
    (onlyIf full yes).eval metadata (s.enter index item) = if (item.field name).isTruthy
      then yes.eval metadata (s.enter index item) else .ok [] := by
  rw [onlyIf, eval_when, Scope.holds, Scope.lookup_enter_field h]
  rfl

/-- A loop shows what its body shows for each element, if that does not depend on the position of the element. -/
theorem eval_each_of_items {n : Text} {body : Markup} {shown : Value → Except TextFault Text} {items : List Value}
    (hitems : (s.lookup n).elements?.getD [] = items)
    (h : ∀ item ∈ items, ∀ index, body.eval metadata (s.enter index item) = shown item) :
    (each n body done).eval metadata s = List.flatten <$> items.mapM shown := by
  rw [eval_each, loopItems, hitems]
  exact congrArg _ (mapM_zipIdx_eq h 0)

end Evaluating

namespace Builtin

variable {metadata : Metadata}

/-- The tree of a parameter shows the line of the parameter, whatever stands around it. -/
theorem eval_parameterTree (s : Scope) (index : Nat) (parameter : Value) :
    parameterTree.eval metadata (s.enter index parameter) = Fragment.join (parameterLine parameter) := by
  simp only [parameterTree, parameterLine, eval_append, eval_lit, eval_ifElse_field "this.name" "name" rfl,
    eval_slot_field "this.name" "name" rfl, eval_ifElse_field "this.type" "type" rfl,
    eval_slot_field "this.type" "type" rfl, eval_onlyIf_field "this.optional" "optional" rfl,
    eval_onlyIf_field "this.description" "description" rfl, eval_slot_field "this.description" "description" rfl,
    Fragment.join_append, Fragment.join_ifField, Fragment.join, Fragment.text_fieldOr, Fragment.text_words,
    Fragment.text_value, inTurn_assoc, inTurn_nil]

/-- The loop over the parameters of an endpoint shows their lines. -/
theorem eval_parameters (s : Scope) (index : Nat) (api : Value) :
    (forEach "this.parameters" parameterTree).eval metadata (s.enter index api)
      = Fragment.join (((api.field "parameters").elements?.getD []).flatMap parameterLine) := by
  have hlookup : (s.enter index api).lookup "this.parameters".text = api.field "parameters" :=
    Scope.lookup_enter_field rfl
  rw [Fragment.join_flatMap, forEach, eval_each_of_items (by rw [hlookup]) fun parameter _ position =>
    eval_parameterTree (s.enter index api) position parameter]

/-- The mapping has the fields that an endpoint is described with at least. -/
def Described (api : Value) : Prop := api.HasField "name" ∧ api.HasField "method" ∧ api.HasField "path"

/-- The tree of an endpoint shows its section, whatever stands around it. -/
theorem eval_endpointTree (s : Scope) (index : Nat) {api : Value} (h : Described api) :
    endpointTree.eval metadata (s.enter index api) = Fragment.join (apiSection api) := by
  simp only [endpointTree, apiSection, eval_append, eval_lit, eval_slot_bare "name" (by decide) h.1,
    eval_slot_bare "method" (by decide) h.2.1, eval_slot_bare "path" (by decide) h.2.2,
    eval_onlyIf_field "this.description" "description" rfl, eval_slot_field "this.description" "description" rfl,
    eval_onlyIf_field "this.parameters" "parameters" rfl, eval_parameters,
    eval_ifElse_field "this.returnType" "returnType" rfl, eval_slot_field "this.returnType" "returnType" rfl,
    Fragment.join_append, Fragment.join_ifField, Fragment.join, Fragment.text_fieldOr, Fragment.text_words,
    Fragment.text_value, inTurn_assoc, inTurn_nil, nil_inTurn, List.cons_append]

/-- The value is a sequence of the items, or it counts as false and there are none. -/
def Lists (v : Value) (items : List Value) : Prop := v.elements? = some items ∨ v.isTruthy = false ∧ items = []

theorem Lists.elements {v : Value} {items : List Value} (h : Lists v items) : v.elements?.getD [] = items := by
  rcases h with h | ⟨hfalse, rfl⟩
  · rw [h]
    rfl
  · cases hitems : v.elements? with
    | none => rfl
    | some items =>
      rw [Value.isTruthy_of_elements? hitems] at hfalse
      simpa using hfalse

theorem eval_slot_outer {vars : Fields} (name : String) {v : Value} (hname : Bare name.text)
    (h : vars.get? name.text = some v) : (slot name).eval metadata (.outer vars) = v.printed := by
  have hreserved : ¬reservedNames.contains name.text = true := by simpa using hname.1
  rw [slot, eval_place, evalPlace, Scope.shown?, if_neg hreserved]
  simp only [Scope.outer, h]

theorem eval_timestamp (vars : Fields) :
    (slot "timestamp").eval metadata (.outer vars) = metadata.generatedAt.printed := by
  rw [slot, eval_place]
  rfl

section Outer

variable {vars : Fields} {title description apis : Value} {items : List Value}
  (htitle : vars.get? "title".text = some title)
  (hdescription : (vars.get? "description".text).getD .null = description)
  (hapis : (vars.get? "apis".text).getD .null = apis) (hitems : Lists apis items)
  (hfields : ∀ api ∈ items, Described api)

include htitle hdescription hapis hitems hfields

/-- The template that describes an interface evaluates to the document. -/
theorem eval_apiDocTree : apiDocTree.eval metadata (.outer vars)
    = Fragment.join (apiDocument title description items metadata.generatedAt) := by
  have hlookup : ∀ name v, ¬thisPoint.isPrefixOf name = true → (vars.get? name).getD .null = v →
      (Scope.outer vars).lookup name = v := by
    intro name v hname hv
    rw [Scope.lookup, Text.after?, if_neg hname]
    exact hv
  have hdescribed : (ifElse "description" (slot "description") (lit "API Documentation")).eval metadata (.outer vars)
      = Fragment.text (if description.isTruthy then .value description else .words "API Documentation") := by
    rw [ifElse, eval_choice, Scope.holds, hlookup _ _ (by decide) hdescription]
    split
    · rename_i htrue
      have hgiven : vars.get? "description".text = some description := by
        cases hget : vars.get? "description".text with
        | none =>
          rw [hget] at hdescription
          subst hdescription
          cases htrue
        | some v => rw [← hdescription, hget]; rfl
      exact eval_slot_outer "description" (by decide) hgiven
    · exact eval_lit _
  have hsections : (ifElse "apis" (forEach "apis" endpointTree) (lit "*No endpoints documented yet.*\n\n")).eval
      metadata (.outer vars) = Fragment.join (apiSections items) := by
    have hbound : (Scope.outer vars).lookup "apis".text = apis := hlookup _ _ (by decide) hapis
    rw [ifElse, eval_choice, Scope.holds, hbound]
    rcases hitems with hitems | ⟨hfalse, rfl⟩
    · have htrue : apis.isTruthy = !items.isEmpty := Value.isTruthy_of_elements? hitems
      cases items with
      | nil => rw [htrue]; exact eval_lit _
      | cons api rest =>
        rw [htrue, forEach, eval_each_of_items (by rw [hbound, hitems]; rfl) fun api hapi index =>
          eval_endpointTree (.outer vars) index (hfields api hapi), ← Fragment.join_flatMap]
        rfl
    · rw [hfalse]
      exact eval_lit _
  simp only [apiDocTree, apiDocument, apiHead, apiFoot, eval_append, eval_lit,
    eval_slot_outer "title" (by decide) htitle, hdescribed, hsections, eval_timestamp,
    Fragment.join_append, Fragment.join, Fragment.text_words,
    Fragment.text_value, inTurn_assoc, inTurn_nil, nil_inTurn, List.cons_append]

end Outer

end Builtin

/-! ## Rendering -/

namespace Engine

open Builtin Fragment

/-- The value that a context gives for a name, or another one. -/
def given (context : Context) (name : String) (default : Value) : Value :=
  (context.vars.last? name.text).getD default

/-- The document that describes the endpoints with the title, the description and the time of a context. -/
def apiFragments (context : Context) (apis : List Value) : List Fragment :=
  apiDocument (given context "title" (.str "API".text)) (given context "description" .null) apis
    context.metadata.generatedAt

section ApiDoc

variable {e : Engine} {context : Context} {apis : List Value} {name : Text}

/-- The names that are left when the template is resolved are those of the head and the foot. -/
theorem left_apiDocTree {vars : Fields} (hapis : Lists ((vars.get? "apis".text).getD .null) apis)
    (hfields : ∀ api ∈ apis, Described api) :
    ∀ n ∈ apiDocTree.left (.outer vars), n = "title".text ∨ n = "description".text ∨ n = "timestamp".text := by
  have hloop : (forEach "apis" endpointTree).left (.outer vars) = [] := by
    refine left_each_eq_nil fun api hapi x hx => ?_
    obtain ⟨hname, hmethod, hpath⟩ := hfields api (hapis.elements ▸ hapi)
    have hnames : endpointTree.bareNames = ["name".text, "method".text, "path".text] := by decide
    simp only [hnames, List.mem_cons, List.not_mem_nil, or_false] at hx
    rcases hx with rfl | rfl | rfl
    · exact ⟨by decide, hname⟩
    · exact ⟨by decide, hmethod⟩
    · exact ⟨by decide, hpath⟩
  intro n hn
  simp only [apiDocTree, left_append, ifElse, left, hloop, lit, slot, List.append_nil, ite_self, List.nil_append,
    List.mem_append, List.mem_singleton] at hn
  rcases hn with (htitle | hdescription) | htimestamp
  · exact .inl htitle
  · split at hdescription
    · exact .inr (.inl (List.mem_singleton.1 hdescription))
    · cases hdescription
  · exact .inr (.inr htimestamp)

/-- The variables that the template is rendered with in a context. -/
def apiVariables (context : Context) : Fields := apiDoc.defaults.update context.vars

theorem get?_apiVariables : (apiVariables context).get? name = (context.vars.last? name).or (apiDoc.default? name) := by
  rw [apiVariables, Fields.get?_update, Template.get?_defaults]

theorem get?_apiVariables_default {name : String} {default : Value} (h : apiDoc.default? name.text = some default) :
    (apiVariables context).get? name.text = some (given context name default) := by
  rw [get?_apiVariables, h, given]
  cases context.vars.last? name.text <;> rfl

theorem get?_apiVariables_description :
    ((apiVariables context).get? "description".text).getD .null = given context "description" .null := by
  have hnone : apiDoc.default? "description".text = none := rfl
  rw [get?_apiVariables, hnone, given, Option.or_none]

/-- The names of the head and the foot show no tokens, if their values print none. -/
theorem untokened_apiVariables {n u : Text}
    (hn : n = "title".text ∨ n = "description".text ∨ n = "timestamp".text)
    (houter : ∀ v ∈ [given context "title" (.str "API".text), given context "description" .null,
      context.metadata.generatedAt], ∀ t, v.printed = .ok t → Slots.Untokened t)
    (hu : outsideText (apiVariables context) context.metadata n = .ok u) : Slots.Untokened u := by
  rcases hn with rfl | rfl | rfl
  · rw [outsideText_of_not_reserved (by decide), get?_apiVariables_default rfl] at hu
    exact houter _ (by simp) u hu
  · have hdescription : ((apiVariables context).get? "description".text).getD .null
        = given context "description" .null := get?_apiVariables_description
    rw [outsideText_of_not_reserved (by decide)] at hu
    cases hget : (apiVariables context).get? "description".text with
    | some v =>
      rw [hget] at hu hdescription
      exact houter _ (by simp [← hdescription]) u hu
    | none =>
      rw [hget] at hu
      cases hu
      exact .inl fun hmem => (slotFree_placeText (by decide) _ hmem).1 rfl
  · exact houter _ (by simp) u hu

/-- **A description of an interface is complete.** For every engine with the built-in template under its name, every
budget and every context: if each endpoint has a name, a method and a path, the document is the head, a section for each
endpoint in order, and the foot. Fragments have no other words than those without braces, so no directive and no
placeholder of the template is left. What is shown has to print, what the head and the foot show may not hold tokens,
and no sequence has more elements than a word counts. -/
theorem render_apiDoc (hget : e.registry.get? apiDoc.name = some apiDoc)
    (hcustom : e.registry.getCustom? apiDoc.name = none)
    (hapis : Lists (given context "apis" (.list [])) apis) (hfields : ∀ api ∈ apis, Described api)
    (hprints : ∀ v, .value v ∈ apiFragments context apis → v.HasText)
    (houter : ∀ v ∈ [given context "title" (.str "API".text), given context "description" .null,
      context.metadata.generatedAt], ∀ t, v.printed = .ok t → Slots.Untokened t)
    (hsized : ∀ name v, context.vars.last? name = some v → v.Sized Value.wordBound) :
    ∃ document, join (apiFragments context apis) = .ok document ∧ e.render apiDoc.name context = .ok document := by
  obtain ⟨document, hdocument⟩ := join_of_prints hprints
  refine ⟨document, hdocument, ?_⟩
  have hlists : Lists (((apiVariables context).get? "apis".text).getD .null) apis := by
    rw [get?_apiVariables_default rfl]
    exact hapis
  have heval : apiDocTree.eval context.metadata (.outer (apiVariables context)) = .ok document := by
    rw [eval_apiDocTree (get?_apiVariables_default rfl) get?_apiVariables_description rfl hlists hfields]
    exact hdocument
  exact render_of_eval List.mem_cons_self hget hcustom rfl hsized
    (fun n hn u hu => untokened_apiVariables (left_apiDocTree hlists hfields n hn) houter hu) heval

end ApiDoc

/-- A fragment that shows a text as it is. -/
def isPlain : Fragment → Bool
  | .words _ _ => true
  | .value (.str _) => true
  | .value _ => false

/-- An endpoint with two parameters, of which one has no fields, and an endpoint with no more than it needs. -/
def petApis : List Value :=
  [.record [(.str "name".text, .str "List".text), (.str "method".text, .str "GET".text),
      (.str "path".text, .str "/pets".text), (.str "parameters".text, .list [.record [], .record [
        (.str "name".text, .str "limit".text), (.str "type".text, .str "int".text),
        (.str "optional".text, .bool true)]])],
    .record [(.str "name".text, .str "Add".text), (.str "method".text, .str "POST".text),
      (.str "path".text, .str "/pets".text), (.str "returnType".text, .str "Pet".text)]]

/-- The endpoints, with variables of the names of fields around them. -/
def petContext : Context where
  vars := [(.str "apis".text, .list petApis), (.str "type".text, .str "outer".text),
    (.str "returnType".text, .str "outer".text)]
  metadata := greetingMetadata

/-- The built-in templates, with one pass. -/
def petEngine : Engine := ⟨Builtin.registry, ⟨1, by decide⟩⟩

theorem sized_petContext (name : Text) (v : Value) (h : petContext.vars.last? name = some v) :
    v.Sized Value.wordBound := by
  have htext : ∀ t, (Value.str t).Sized Value.wordBound := fun _ => Value.sized_of_no_parts rfl rfl
  have hbool : ∀ b, (Value.bool b).Sized Value.wordBound := fun _ => Value.sized_of_no_parts rfl rfl
  have hapis : (Value.list petApis).Sized Value.wordBound := by
    refine Value.sized_list (by decide) ?_
    simp only [petApis, List.forall_mem_cons]
    refine ⟨Value.sized_record ?_, Value.sized_record ?_, nofun⟩
    · simp only [List.forall_mem_cons]
      refine ⟨htext _, htext _, htext _, Value.sized_list (by decide) ?_, nofun⟩
      simp only [List.forall_mem_cons]
      refine ⟨Value.sized_record nofun, Value.sized_record ?_, nofun⟩
      simp only [List.forall_mem_cons]
      exact ⟨htext _, htext _, hbool _, nofun⟩
    · simp only [List.forall_mem_cons]
      exact ⟨htext _, htext _, htext _, htext _, nofun⟩
  have hvars : ∀ entry ∈ petContext.vars, entry.2.Sized Value.wordBound := by
    simp only [petContext, List.forall_mem_cons]
    exact ⟨hapis, htext _, htext _, nofun⟩
  obtain ⟨key, hmem⟩ := Fields.mem_of_get? h
  exact hvars _ (List.mem_reverse.1 hmem)

theorem render_apiDoc_pets :
    (∀ api ∈ petApis, Described api) ∧
    petEngine.render apiDoc.name petContext = .ok (["# API Documentation\n\n", "## Overview\n\n",
      "API Documentation\n\n", "## Endpoints\n\n", "### List\n\n", "**Method:** GET\n", "**Path:** /pets\n\n",
      "**Parameters:**\n", "- `unnamed` (unknown)\n", "- `limit` (int) - Optional\n\n", "**Returns:** unknown\n\n",
      "### Add\n\n", "**Method:** POST\n", "**Path:** /pets\n\n", "**Returns:** Pet\n\n", "---\n",
      "*Generated on now*\n"].flatMap String.text) := by
  have hdescribed : ∀ api ∈ petApis, Described api := by
    simp only [petApis, List.forall_mem_cons]
    exact ⟨⟨rfl, rfl, rfl⟩, ⟨rfl, rfl, rfl⟩, nofun⟩
  have hshown : (apiFragments petContext petApis).all isPlain = true := rfl
  have hprints : ∀ v, .value v ∈ apiFragments petContext petApis → v.HasText := by
    intro v hv
    have htext := List.all_eq_true.1 hshown _ hv
    cases v with
    | str t => exact ⟨t, rfl⟩
    | _ => cases htext
  have houter : ∀ v ∈ [given petContext "title" (.str "API".text), given petContext "description" .null,
      petContext.metadata.generatedAt], ∀ t, v.printed = .ok t → Slots.Untokened t := by
    simp only [List.forall_mem_cons]
    refine ⟨fun t ht => ?_, fun t ht => ?_, fun t ht => ?_, nofun⟩
    · cases ht
      exact .inl (by decide)
    · cases ht
      exact .inl (by decide)
    · cases ht
      exact .inl (by decide)
  obtain ⟨document, hdocument, hrender⟩ := render_apiDoc (e := petEngine) rfl rfl
    (.inl rfl) hdescribed hprints houter sized_petContext
  have htext : join (apiFragments petContext petApis) = .ok _ := rfl
  refine ⟨hdescribed, hrender.trans ?_⟩
  rw [← Except.ok.inj (htext.symm.trans hdocument)]
  exact congrArg Except.ok (by decide +kernel)

end Engine

end Stencil
