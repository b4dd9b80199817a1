import Stencil.Proofs.Template.Elements
import Stencil.Proofs.Template.Filling
import Stencil.Proofs.Template.Builtins

/-!
# The texts of loop elements

* **Elements on their own** (`Markup.isolated`): a tree evaluated so that each element of a loop sees nothing around it
  but what the names show outside all loops.
* A tree is evaluated so, if its loops guard themselves and the loops inside them read their elements alone
  (`evalWith_eq_isolated`). The text of an element depends on it, and on what the names show that it has no field for
  (`elementText_congr`).
* The loops of the built-in templates are of this kind (`Builtin.loops`). Their element texts depend on no variables but
  those of the few fields that they read by their bare names, where these are missing (`Engine.loop_texts`).
-/

namespace Stencil

/-- An element of a loop without anything around it. -/
def Scope.alone (item : Value) : Scope := (Scope.outer []).enter 0 item

namespace Markup

/-! ## Elements on their own -/

/-- The text that a tree means where the elements of loops see nothing around them, given what the names mean that no
element answers for. -/
def isolated (outside : Text → Except TextFault Text) : Markup → Scope → Except TextFault Text
  | done, _ => .ok []
  | text t rest, s => do return t ++ (← rest.isolated outside s)
  | place name rest, s => do
    let here ← placeWith outside s name
    return here ++ (← rest.isolated outside s)
  | when name yes rest, s => do
    let here ← if s.holds name then yes.isolated outside s else .ok []
    return here ++ (← rest.isolated outside s)
  | choice name yes no rest, s => do
    let here ← if s.holds name then yes.isolated outside s else no.isolated outside s
    return here ++ (← rest.isolated outside s)
  | each name body rest, s => do
    let here ← ((s.lookup name).elements?.getD []).mapM fun item => body.isolated outside (.alone item)
    return here.flatten ++ (← rest.isolated outside s)

/-- The text of one element of a loop. -/
def elementText (outside : Text → Except TextFault Text) (body : Markup) (item : Value) : Except TextFault Text :=
  body.isolated outside (.alone item)

/-- The bodies of the loops of a tree, at any depth. -/
def bodies : Markup → List Markup
  | done => []
  | text _ rest => rest.bodies
  | place _ rest => rest.bodies
  | when _ yes rest => yes.bodies ++ rest.bodies
  | choice _ yes no rest => yes.bodies ++ no.bodies ++ rest.bodies
  | each _ body rest => body :: body.bodies ++ rest.bodies

/-- The names that the loops of a tree do not read from their elements themselves. -/
def innerNames : Markup → List Text
  | done => []
  | text _ rest => rest.innerNames
  | place _ rest => rest.innerNames
  | when _ yes rest => yes.innerNames ++ rest.innerNames
  | choice _ yes no rest => yes.innerNames ++ no.innerNames ++ rest.innerNames
  | each _ body rest => body.bareNames ++ rest.innerNames

/-- The loops of a tree guard themselves and do not read the number of an element, and those inside them read nothing
but their elements. -/
def insulated : Markup → Bool
  | done => true
  | text _ rest => rest.insulated
  | place _ rest => rest.insulated
  | when _ yes rest => yes.insulated && rest.insulated
  | choice _ yes no rest => yes.insulated && no.insulated && rest.insulated
  | each _ body rest => body.selfGuarded && !body.bareNames.contains indexName && body.innerNames.isEmpty &&
    body.insulated && rest.insulated

section Isolated

variable {outside outside' : Text → Except TextFault Text}

/-- **An insulated tree** is evaluated with its elements on their own. -/
theorem evalWith_eq_isolated {m : Markup} (hm : m.insulated = true) : ∀ {s : Scope},
    (∀ n ∈ m.innerNames, placeWith outside s n = outside n) → m.evalWith outside s = m.isolated outside s := by
  induction m with
  | done => exact fun _ => rfl
  | text t rest ih =>
    intro s h
    rw [evalWith, isolated, ih hm h]
  | place n rest ih =>
    intro s h
    rw [evalWith, isolated, ih hm h]
  | when n yes rest ihy ih =>
    intro s h
    simp only [insulated, Bool.and_eq_true] at hm
    obtain ⟨hy, hr⟩ := List.forall_mem_append.1 h
    rw [evalWith, isolated, ihy hm.1 hy, ih hm.2 hr]
  | choice n yes no rest ihy ihn ih =>
    intro s h
    simp only [insulated, Bool.and_eq_true] at hm
    obtain ⟨hbranches, hr⟩ := List.forall_mem_append.1 h
    obtain ⟨hy, hno⟩ := List.forall_mem_append.1 hbranches
    rw [evalWith, isolated, ihy hm.1.1 hy, ihn hm.1.2 hno, ih hm.2 hr]
  | each n body rest ihb ih =>
    intro s h
    simp only [insulated, Bool.and_eq_true, Bool.not_eq_true', List.isEmpty_iff] at hm
    obtain ⟨⟨⟨⟨hguarded, hindex⟩, hinner⟩, hbody⟩, hrest⟩ := hm
    obtain ⟨hb, hr⟩ := List.forall_mem_append.1 h
    have helement : ∀ item index, body.evalWith outside (s.enter index item) = body.isolated outside (.alone item) := by
      intro item index
      have halone : body.evalWith outside (s.enter index item) = body.evalWith outside (.alone item) := by
        refine evalWith_congr_bare hguarded fun x hx => placeWith_enter_congr ?_ (fun hname => ?_) item
        · rw [hb x hx, placeWith_outer]
        · subst hname
          rw [List.contains_iff_mem.2 hx] at hindex
          cases hindex
      exact halone.trans (ihb hbody fun x hx => absurd (hinner ▸ hx) List.not_mem_nil)
    have hitems : (loopItems s n).mapM (fun x => body.evalWith outside (s.enter x.2 x.1))
        = ((s.lookup n).elements?.getD []).mapM fun item => body.isolated outside (.alone item) :=
      mapM_zipIdx_eq (fun item _ index => helement item index) 0
    rw [evalWith, isolated, ih hrest hr]
    exact congrArg (· >>= _) hitems

/-- A body that is read alone: its own names and those of its loops are answered by the element or not at all. -/
structure ReadAlone (body : Markup) (names : List Text) : Prop where
  guarded : body.selfGuarded = true
  insulated : body.insulated = true
  inner : body.innerNames = []
  bareNames_eq : body.bareNames = names
  bare : ∀ n ∈ names, Bare n
  isName : ∀ n ∈ names, IsName n

/-- The text of an element depends on it, and on what the names show that it has no field for. -/
theorem elementText_congr {body : Markup} {names : List Text} (hbody : body.ReadAlone names) {item : Value}
    (h : ∀ n ∈ names, item.field? n = none → outside n = outside' n) :
    body.elementText outside item = body.elementText outside' item := by
  have hinner : ∀ outside : Text → Except TextFault Text, ∀ n ∈ body.innerNames,
      placeWith outside (.alone item) n = outside n := by
    rw [hbody.inner]
    exact nofun
  rw [elementText, elementText, ← evalWith_eq_isolated hbody.insulated (hinner outside),
    ← evalWith_eq_isolated hbody.insulated (hinner outside')]
  refine evalWith_congr_bare hbody.guarded fun n hn => ?_
  rw [hbody.bareNames_eq] at hn
  rw [placeWith, placeWith, Scope.element?_enter_bare (hbody.bare n hn)]
  cases hfield : item.field? n with
  | some v => rfl
  | none =>
    have hnone := placeWith_outer outside [] n
    have hnone' := placeWith_outer outside' [] n
    rw [placeWith] at hnone hnone'
    rw [Option.none_or, hnone, hnone', h n hn hfield]

end Isolated

end Markup

namespace Builtin

open Markup

/-! ## The loops of the built-in templates -/

/-- The step of a setup. -/
def stepTree : Markup := lit "- " ++ slot "this" ++ lit "\n"

/-- The bodies of the loops, with the fields of their elements that they read by their bare names. -/
def loops : List (Markup × List Text) :=
  [(endpointTree, ["name".text, "method".text, "path".text]), (parameterTree, []), (stepTree, []),
    (componentTree, ["name".text, "description".text]),
    (changeTree, ["component".text, "type".text, "description".text, "impact".text])]

theorem readAlone_of_mem_loops {body : Markup} {names : List Text} (h : (body, names) ∈ loops) :
    body.ReadAlone names := by
  simp only [loops, List.mem_cons, Prod.mk.injEq, List.not_mem_nil, or_false] at h
  rcases h with ⟨rfl, rfl⟩ | ⟨rfl, rfl⟩ | ⟨rfl, rfl⟩ | ⟨rfl, rfl⟩ | ⟨rfl, rfl⟩
  · exact ⟨by decide, by decide, by decide, by decide, by decide, by decide⟩
  · exact ⟨by decide, by decide, by decide, by decide, by decide, by decide⟩
  · exact ⟨by decide, by decide, by decide, by decide, by decide, by decide⟩
  · exact ⟨by decide, by decide, by decide, by decide, by decide, by decide⟩
  · exact ⟨by decide, by decide, by decide, by decide, by decide, by decide⟩

/-- The loops of the built-in templates. -/
theorem loops_of_mem_trees {t : Template} {m : Markup} (h : (t, m) ∈ trees) :
    m.insulated = true ∧ m.bodies ⊆ loops.map (·.1) := by
  have hapi : apiDocTree.bodies = [endpointTree, parameterTree] := rfl
  have hsetup : setupTree.bodies = [stepTree] := rfl
  have harchitecture : architectureTree.bodies = [componentTree, changeTree] := rfl
  simp only [trees, List.mem_cons, Prod.mk.injEq, List.not_mem_nil, or_false] at h
  rcases h with ⟨-, rfl⟩ | ⟨-, rfl⟩ | ⟨-, rfl⟩
  · exact ⟨by decide, by simp [hapi, loops]⟩
  · exact ⟨by decide, by simp [hsetup, loops]⟩
  · exact ⟨by decide, by simp [harchitecture, loops]⟩

end Builtin

namespace Engine

open Builtin Markup

/-! ## Documents -/

/-- What a bare name shows outside all loops is the printed variable, if no token is read in it. -/
theorem restoredText_of_untokened {n : Text} (hn : Bare n) (hname : IsName n) {vars : Fields}
    (h : ∀ v t, vars.get? n = some v → v.printed = .ok t → Slots.Untokened t) (slots : Slots) (metadata : Metadata) :
    restoredText slots vars metadata n = match vars.get? n with
      | some v => v.printed
      | none => .ok (placeText n) := by
  rw [restoredText, outsideText_of_not_reserved hn.1]
  cases hget : vars.get? n with
  | none =>
    have hfree : Slots.Untokened (placeText n) := .inl fun hmem => (slotFree_placeText hname _ hmem).1 rfl
    exact congrArg Except.ok (hfree.fill_eq slots)
  | some v =>
    simp only
    cases hprinted : v.printed with
    | error fault => rfl
    | ok t => exact congrArg Except.ok ((h v t hget hprinted).fill_eq slots)

/-- **The text of a loop element depends on the element**, and on the outer variables of the fields that the loop reads
by their bare names and the element lacks. -/
theorem loop_texts :
    (∀ {t : Template} {m : Markup}, (t, m) ∈ trees → ∀ {e : Engine} {context : Context} {document : Text},
      e.registry.get? t.name = some t → e.registry.getCustom? t.name = none →
      (∀ name v, context.vars.last? name = some v → v.Counted) → e.render t.name context = .ok document →
      m.bodies ⊆ loops.map (·.1) ∧
      ∃ slots, m.isolated (restoredText slots (t.defaults.update context.vars) context.metadata)
        (.outer (t.defaults.update context.vars)) = .ok document) ∧
    ∀ {body : Markup} {names : List Text}, (body, names) ∈ loops → ∀ (item : Value) {vars vars' : Fields},
      (∀ n ∈ names, item.field? n = none → vars.get? n = vars'.get? n ∧
        ∀ v t, vars.get? n = some v → v.printed = .ok t → Slots.Untokened t) →
      ∀ (metadata metadata' : Metadata) (slots slots' : Slots),
        body.elementText (restoredText slots vars metadata) item
          = body.elementText (restoredText slots' vars' metadata') item := by
  constructor
  · intro t m ht e context document hget hcustom hcounted h
    obtain ⟨hinsulated, hbodies⟩ := loops_of_mem_trees ht
    obtain ⟨slots, heval⟩ := evalWith_of_render ht hget hcustom hcounted h
    rw [evalWith_eq_isolated hinsulated fun n _ => placeWith_outer _ _ n] at heval
    exact ⟨hbodies, slots, heval⟩
  · intro body names hbody item vars vars' h metadata metadata' slots slots'
    have hread : body.ReadAlone names := readAlone_of_mem_loops hbody
    refine elementText_congr hread fun n hn hfield => ?_
    obtain ⟨hsame, huntokened⟩ := h n hn hfield
    rw [restoredText_of_untokened (hread.bare n hn) (hread.isName n hn) huntokened,
      restoredText_of_untokened (hread.bare n hn) (hread.isName n hn) (hsame ▸ huntokened), hsame]

/-- An endpoint with all that it is described with at least. -/
def ping : Value :=
  .record [(.str "name".text, .str "Ping".text), (.str "method".text, .str "GET".text),
    (.str "path".text, .str "/".text)]

/-- The endpoint without its name. -/
def nameless : Value :=
  .record [(.str "method".text, .str "GET".text), (.str "path".text, .str "/".text)]

/-- A name outside all loops, which the template does not declare. -/
def outerName : Fields := [(.str "name".text, .str "Outer".text)]

/-- An endpoint with other variables. -/
def endpointContext (endpoint : Value) (others : Fields) : Context :=
  ⟨(.str "apis".text, .list [endpoint]) :: others, greetingMetadata⟩

def builtinEngine : Engine := ⟨Builtin.registry, defaultPasses⟩

/-- The description of one endpoint, whose section starts with a name. -/
def endpointDocument (name : Text) : Text :=
  ["# API Documentation\n\n", "## Overview\n\n", "API Documentation\n\n", "## Endpoints\n\n", "### "].flatMap
      String.text ++ name
    ++ ["\n\n", "**Method:** GET\n", "**Path:** /\n\n", "**Returns:** unknown\n\n", "---\n",
      "*Generated on now*\n"].flatMap String.text

theorem sized_nameless {others : Fields} {k : Nat} (hk : 0 < k) (h : ∀ entry ∈ others, entry.2.Sized k) (name : Text)
    (v : Value) (hv : (endpointContext nameless others).vars.last? name = some v) : v.Sized k := by
  have htext : ∀ t, (Value.str t).Sized k := fun _ => Value.sized_of_no_parts rfl rfl
  have hendpoint : nameless.Sized k := by
    refine Value.sized_record ?_
    simp only [List.forall_mem_cons]
    exact ⟨htext _, htext _, List.forall_mem_nil _⟩
  obtain ⟨key, hmem⟩ := Fields.mem_of_get? hv
  rcases List.mem_cons.1 (List.mem_reverse.1 hmem) with hentry | hmem
  · cases hentry
    exact Value.sized_list hk (List.forall_mem_singleton.2 hendpoint)
  · exact h _ hmem

theorem sized_outerName {k : Nat} : ∀ entry ∈ outerName, entry.2.Sized k :=
  List.forall_mem_singleton.2 (Value.sized_of_no_parts rfl rfl)

/-- No text that is shown outside the loops of a template holds the character that opens tokens. -/
def showsNoOpening (m : Markup) (vars : Fields) (metadata : Metadata) : Bool :=
  (m.left (.outer vars)).all fun n => (outsideText vars metadata n).toOption.all (!·.contains slotOpen)

theorem untokened_of_showsNoOpening {m : Markup} {vars : Fields} {metadata : Metadata}
    (h : showsNoOpening m vars metadata = true) :
    ∀ n ∈ m.left (.outer vars), ∀ u, outsideText vars metadata n = .ok u → Slots.Untokened u := by
  intro n hn u hu
  have hall := List.all_eq_true.1 h n hn
  rw [hu] at hall
  exact .inl (by simpa [Except.toOption] using hall)

/-- An endpoint without a name shows its placeholder, or the name outside all loops. -/
theorem render_nameless :
    builtinEngine.render apiDoc.name (endpointContext nameless []) = .ok (endpointDocument (placeText "name".text)) ∧
    builtinEngine.render apiDoc.name (endpointContext nameless outerName) = .ok (endpointDocument "Outer".text) := by
  have hbuiltin : (apiDoc, apiDocTree) ∈ trees := List.mem_cons_self
  constructor
  · exact render_of_eval hbuiltin rfl rfl rfl (sized_nameless (by decide) nofun)
      (untokened_of_showsNoOpening (by decide +kernel)) (eq_ok_of_toOption (by decide +kernel))
  · exact render_of_eval hbuiltin rfl rfl rfl (sized_nameless (by decide) sized_outerName)
      (untokened_of_showsNoOpening (by decide +kernel)) (eq_ok_of_toOption (by decide +kernel))

theorem loop_texts_endpoints :
    (∃ slots, apiDocTree.isolated
        (restoredText slots (apiDoc.defaults.update (endpointContext nameless outerName).vars) greetingMetadata)
        (.outer (apiDoc.defaults.update (endpointContext nameless outerName).vars))
      = .ok (endpointDocument "Outer".text)) ∧
    endpointTree.elementText (restoredText [] outerName greetingMetadata) ping
      = endpointTree.elementText (restoredText [] [] greetingMetadata) ping := by
  have hbuiltin : (apiDoc, apiDocTree) ∈ trees := List.mem_cons_self
  have hloop : (endpointTree, ["name".text, "method".text, "path".text]) ∈ loops := List.mem_cons_self
  refine ⟨(loop_texts.1 hbuiltin rfl rfl (sized_nameless digitBound_pos sized_outerName) render_nameless.2).2, ?_⟩
  refine loop_texts.2 hloop ping (fun n hn hfield => ?_) greetingMetadata greetingMetadata [] []
  simp only [List.mem_cons, List.not_mem_nil, or_false] at hn
  rcases hn with rfl | rfl | rfl <;> cases hfield

/-- Two contexts that differ in a variable that the template does not declare give an endpoint different texts. -/
theorem loop_texts_differ :
    (∀ d ∈ apiDoc.declared, d.name ≠ "name".text) ∧
    builtinEngine.render apiDoc.name (endpointContext nameless []) = .ok (endpointDocument (placeText "name".text)) ∧
    builtinEngine.render apiDoc.name (endpointContext nameless outerName) = .ok (endpointDocument "Outer".text) ∧
    endpointDocument (placeText "name".text) ≠ endpointDocument "Outer".text :=
  ⟨by decide, render_nameless.1, render_nameless.2, by decide +kernel⟩

end Engine

end Stencil
