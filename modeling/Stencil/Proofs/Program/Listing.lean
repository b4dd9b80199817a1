import Mathlib.Data.List.Induction
import Stencil.Proofs.Program.Escapes
import Stencil.Proofs.Template.Histories
import Stencil.Proofs.Text.Utf8

/-!
# What a listing tells

* **Names** (`Project.customized`): the names of the customizations of a project, each once, in the order in which they
  are first read. They are the names that the engine of the project has covered (`names_foldl_cover`).
* **Rows** (`Project.rows`): one for each built-in template and one for each customized name (`listing_of_project`). The
  origin is that of the name and not that of the row, so that the row of a built-in template with a customized name is
  that of a custom one. Only without such a name each row has an origin of its own (`rows_eq_ownRows_iff`).
* **Listings** (`list_rows`): what a call of the list writes is the table of these rows.
-/

namespace Stencil

/-! ## Names -/

/-- Customizations over a registry add the names that are not covered yet, in order. -/
theorem names_foldl_cover (cs : List Customization) {r : Registry} (hr : r.overlay = .empty) :
    (cs.foldl Registry.cover r).overlay.names = (cs.map (·.name)).eraseDups := by
  -- From the end: the last customization is put into the map that the others have made.
  induction cs using List.reverseRecOn with
  | nil =>
    rw [List.foldl_nil, hr]
    rfl
  | append_singleton cs c ih =>
    rw [List.foldl_append, List.map_append, List.map_singleton, eraseDups_append_singleton, ← ih]
    have hinsert := NameMap.names_insert (cs.foldl Registry.cover r).overlay c.name c
    rw [ih] at hinsert ⊢
    simp only [List.mem_eraseDups] at hinsert
    exact hinsert

/-- Templates are registered under their own names, in order. -/
theorem templates_builtin : Builtin.registry.templates.values = Builtin.templates := rfl

namespace Project

variable {w : Surroundings} (p : Project w)

/-- The names that are customized, in the order in which they are first read. -/
def customized : List Text := (p.customizations.map (·.name)).eraseDups

theorem nodup_customized : p.customized.Nodup := nodup_eraseDups _

theorem names_overlay : p.engine.registry.overlay.names = p.customized := names_foldl_cover p.customizations rfl

/-- A name is covered if it is customized. -/
theorem getCustom?_isSome_iff {name : Text} :
    (p.engine.registry.getCustom? name).isSome = true ↔ name ∈ p.customized := by
  rw [← p.names_overlay, ← not_iff_not, Bool.not_eq_true, Option.isSome_eq_false_iff, Option.isNone_iff_eq_none]
  exact NameMap.get?_eq_none_iff _ _

/-- What covers a name bears it. -/
theorem name_of_getCustom? {name : Text} {c : Customization} (h : p.engine.registry.getCustom? name = some c) :
    c.name = name := by
  rw [p.engine_covered.2.2] at h
  simpa using List.find?_some h

/-! ## Rows -/

/-- The row of a built-in template, with an origin. -/
def builtinRow (origin : Origin) (t : Template) : ListingRow := ⟨t.name, t.kind, origin, t.declared.map (·.name)⟩

/-- The row of a customized name: the kind is that of the built-in template of the name, if there is one. -/
def customRow (name : Text) : ListingRow :=
  ⟨name, ((Builtin.registry.templates.get? name).map (·.kind)).getD .generic, .custom, []⟩

/-- The rows that the program lists. -/
def rows : List ListingRow :=
  Builtin.templates.map (fun t => builtinRow (if t.name ∈ p.customized then .custom else .builtIn) t)
    ++ p.customized.map customRow

/-- The rows where each one has its own origin. -/
def ownRows : List ListingRow := Builtin.templates.map (builtinRow .builtIn) ++ p.customized.map customRow

theorem origin_eq (name : Text) :
    p.engine.registry.origin name = if name ∈ p.customized then .custom else .builtIn := by
  rw [Registry.origin]
  exact if_congr p.getCustom?_isSome_iff rfl rfl

/-- **The rows of a listing** are those of the built-in templates, and after them those of the customized names. -/
theorem listing_eq_rows : p.engine.registry.listing = p.rows := by
  have htemplates : p.engine.registry.templates.values = Builtin.templates := by
    rw [p.engine_covered.2.1]
    exact templates_builtin
  rw [Registry.listing, Registry.list, List.map_append, htemplates, NameMap.values_eq_filterMap, p.names_overlay, rows]
  congr 1
  · exact List.map_congr_left fun t _ => by rw [p.origin_eq]; rfl
  · rw [List.map_map, List.map_filterMap, ← List.filterMap_eq_map (f := customRow)]
    refine List.filterMap_congr fun name hname => ?_
    obtain ⟨c, hc⟩ := Option.isSome_iff_exists.1 (p.getCustom?_isSome_iff.2 hname)
    obtain rfl := p.name_of_getCustom? hc
    have hrow : (⟨c.name, (p.engine.registry.asTemplate c).kind, p.engine.registry.origin c.name, []⟩ : ListingRow)
        = customRow c.name := by
      rw [p.origin_eq, if_pos hname, Registry.asTemplate, p.engine_covered.2.1]
      rfl
    rw [show p.engine.registry.overlay.get? c.name = some c from hc]
    exact congrArg some hrow

/-- Each row has its own origin exactly where no built-in template has a customized name. -/
theorem rows_eq_ownRows_iff : p.rows = p.ownRows ↔ ∀ t ∈ Builtin.templates, t.name ∉ p.customized := by
  rw [rows, ownRows, List.append_left_inj, List.map_inj_left]
  refine forall₂_congr fun t _ => ?_
  split <;> simp_all [builtinRow]

/-- The rows of custom origin: one for each customized name, and one for each built-in template that has one. -/
theorem count_custom_rows : (p.rows.filter (·.origin = .custom)).length
    = p.customized.length + (Builtin.templates.filter (·.name ∈ p.customized)).length := by
  have hbuiltin : ∀ t : Template,
      (builtinRow (if t.name ∈ p.customized then .custom else .builtIn) t).origin = .custom ↔ t.name ∈ p.customized := by
    intro t
    by_cases ht : t.name ∈ p.customized <;> simp [builtinRow, ht]
  rw [rows, List.filter_append, List.length_append, Nat.add_comm, List.filter_map, List.filter_map, List.length_map,
    List.length_map]
  congr 1
  · exact congrArg List.length (List.filter_eq_self.2 fun _ _ => rfl)
  · exact congrArg List.length (List.filter_congr fun t _ => decide_eq_decide.2 (hbuiltin t))

end Project

/-! ## Listings -/

section Listings

variable {w : Surroundings} {arguments : List Text} {c : Call} {mode : OutputMode} {outcome : Outcome}

/-- **A list shows the origin of names.** For every call of the list, all files and environments: a run that succeeds
writes the table of the rows of its project. These are the three built-in templates, in order and with their variables,
and after them the customized names, each once, in the order in which they are first read. The row of a built-in
template with a customized name has the origin of the customization; each row has its own origin exactly where there is
no such template. The rows of custom origin are as many as the customized names and such templates. -/
theorem list_rows (hcalls : Calls arguments c) (hcommand : c.command = .list)
    (hmode : resolveMode c.output w.mode w.terminal = .ok mode) (hrun : run w arguments = .ok outcome)
    (hexit : outcome.exit = 0) :
    ∃ p : Project w, w.Ready ⟨p.settings, p.engine⟩ ∧
      (listingTable p.rows).text w.width = .ok outcome.output ∧ p.customized.Nodup ∧
      (p.rows = p.ownRows ↔ ∀ t ∈ Builtin.templates, t.name ∉ p.customized) ∧
      (p.rows.filter (·.origin = .custom)).length
        = p.customized.length + (Builtin.templates.filter (·.name ∈ p.customized)).length := by
  rw [run_of_calls hcalls, Call.run, hmode] at hrun
  obtain ⟨⟨notices, prepared⟩, hprepare, hrest⟩ := bind_eq_ok_iff.1 hrun
  cases prepared with
  | error message =>
    cases hrest
    cases hexit
  | ok ready =>
    obtain ⟨⟨more, result⟩, hresult, hrest⟩ := bind_eq_ok_iff.1 hrest
    have hready : w.Ready ready := ⟨notices, hprepare⟩
    obtain ⟨p, hsettings, hengine⟩ := project_of_ready hready
    obtain rfl : ready = ⟨p.settings, p.engine⟩ := by rw [← hsettings, ← hengine]
    rw [hcommand, Command.run, runList, p.listing_eq_rows] at hresult
    obtain ⟨text, htext, hreturn⟩ := bind_eq_ok_iff.1 hresult
    cases hreturn
    obtain ⟨-, rfl⟩ := CommandResult.outcome_ok hrest
    exact ⟨p, hready, mapError_eq_ok_iff.1 htext, p.nodup_customized, p.rows_eq_ownRows_iff, p.count_custom_rows⟩

/-- The arguments of a list. -/
def listArguments : List Text := [CommandName.list.word]

theorem calls_list : Calls listArguments ⟨.list, none, false⟩ := by
  have htokens : CommandName.list.grammar.tokens [] = .ok [] := by decide +kernel
  have hnothing : CommandName.list.grammar.readTokens [] false [] = .ok ⟨[], [], []⟩ := by
    rw [ArgumentGrammar.readTokens]
  have hread : CommandName.list.grammar.read [] = .ok [] := by
    have hoperands : CommandName.list.grammar.operands = [] := rfl
    rw [ArgumentGrammar.read, htokens, mapError_ok, hoperands]
    exact bind_eq_ok_iff.2 ⟨_, rfl, bind_eq_ok_iff.2 ⟨_, hnothing, rfl⟩⟩
  exact ⟨.list, _, _, rfl, hread, by decide +kernel⟩

/-- A project with a customization of a built-in template. -/
def customSurroundings : Surroundings where
  files := ⟨[((fileIn standardCustomDir "api-doc.md".text).parts, .file (Text.utf8 "# Mine\n".text))], false⟩
  directory := []
  mode := none
  terminal := false
  width := 80
  now := .ofMicroseconds 0

/-- One name is customized, and two rows have custom origin: the built-in template has no row of its own origin. -/
theorem list_rows_custom : ∃ (outcome : Outcome) (p : Project customSurroundings),
    run customSurroundings listArguments = .ok outcome ∧ outcome.exit = 0 ∧
      (listingTable p.rows).text customSurroundings.width = .ok outcome.output ∧
      p.customized = ["api-doc".text] ∧ (p.rows.filter (·.origin = .custom)).length = 2 ∧ p.rows ≠ p.ownRows := by
  have hexit : (Call.run customSurroundings ⟨.list, none, false⟩).toOption.any (·.exit == 0) = true := by
    decide +kernel
  have hnames : (prepare customSurroundings).toOption.any (fun r =>
      r.2.toOption.any (·.engine.registry.overlay.names == ["api-doc".text])) = true := by decide +kernel
  obtain ⟨outcome, houtcome, hzero⟩ := (Option.any_eq_true _ _).1 hexit
  have hrun : run customSurroundings listArguments = .ok outcome :=
    (run_of_calls calls_list).trans (eq_ok_of_toOption houtcome)
  obtain ⟨p, ⟨notices, hready⟩, htext, -, howned, hcount⟩ :=
    list_rows calls_list rfl rfl hrun (by simpa using hzero)
  have hcustomized : p.customized = ["api-doc".text] := by
    rw [← p.names_overlay]
    simpa [hready, Except.toOption] using hnames
  refine ⟨outcome, p, hrun, by simpa using hzero, htext, hcustomized, ?_, fun heq => ?_⟩
  · rw [hcount, hcustomized]
    decide +kernel
  · refine howned.1 heq Builtin.apiDoc (by simp [Builtin.templates]) ?_
    rw [hcustomized]
    decide +kernel

end Listings

end Stencil
