import Stencil.Proofs.Program.Preparing
import Stencil.Proofs.Template.Fallback
import Stencil.Proofs.Terminal.Unstyled
import Stencil.Proofs.Text.Utf8

/-!
# Which runs stop without an outcome

* **Commands** (`Command.run_eq_error_iff`): a listing stops at a wrong style tag, and a render at a variable file.
  Describing a template never stops, since a built-in template declares no variable with a style tag in its name.
* **Output** (`CommandResult.outcome_eq_error_iff`): a result that is a text is written as it is, so that half of a
  surrogate pair in it stops the program, unless the output takes it for a byte. An error message is written with its
  halves escaped, and always has an outcome.
* **Programs** (`run_escapes_iff`): a run stops without an outcome exactly for the reasons of `Escapes`, and otherwise
  ends with an exit code of at most two.
-/

namespace Stencil

/-! ## Arguments -/

theorem CommandName.ofWord?_word (name : CommandName) : ofWord? name.word = some name := by
  cases name <;> decide

theorem CommandName.word_of_ofWord? {word : Text} {name : CommandName} (h : ofWord? word = some name) :
    name.word = word :=
  eq_of_beq (List.find?_some (p := fun other : CommandName => other.word == word) h)

/-- The arguments ask for the page about all commands. -/
inductive AsksHelp : List Text → Prop
  | nothing : AsksHelp []
  | option {word : Text} : word ∈ Options.help.names → AsksHelp [word]

/-- The arguments make a call. -/
def Calls (arguments : List Text) (c : Call) : Prop :=
  ∃ (name : CommandName) (rest : List Text) (found : Findings),
    arguments = name.word :: rest ∧ name.grammar.read rest = .ok found ∧ c = name.call found

/-! ## Variable files -/

/-- The first variable file of a request that is not read in order stops the program. -/
inductive RequestStops (w : Surroundings) (r : RenderRequest) (e : LoadError) : Prop
  | vars {path : Path} : r.vars = some path → VariablesStop w.files w.directory path e → RequestStops w r e
  | fallback {path : Path} {vars : Option Fields} : variablesOf? w r.vars = .ok vars →
    r.fallbackVariables = some path → VariablesStop w.files w.directory path e → RequestStops w r e

section Requests

variable {w : Surroundings} {r : RenderRequest} {e : LoadError}

theorem variablesOf?_eq_error_iff {given : Option Path} : variablesOf? w given = .error e ↔
    ∃ path, given = some path ∧ loadVariables w.files w.directory path = .error e := by
  cases given with
  | none => simp [variablesOf?]
  | some path => cases hload : loadVariables w.files w.directory path <;> simp [variablesOf?, hload, Except.map]

theorem variablesOf?_stops_iff {given : Option Path} : variablesOf? w given = .error e ∧ e.isReported = false ↔
    ∃ path, given = some path ∧ VariablesStop w.files w.directory path e := by
  rw [variablesOf?_eq_error_iff]
  simp only [← loadVariables_stops_iff, ← and_assoc, exists_and_right]

theorem load_stops_iff : r.load w = .error e ∧ e.isReported = false ↔ RequestStops w r e := by
  constructor
  · rintro ⟨herror, hreported⟩
    rcases bind_eq_error_iff.1 herror with hvars | ⟨vars, hvars, hrest⟩
    · obtain ⟨path, hpath, hstop⟩ := variablesOf?_stops_iff.1 ⟨hvars, hreported⟩
      exact .vars hpath hstop
    · rcases bind_eq_error_iff.1 hrest with hfallback | ⟨_, _, hnever⟩
      · obtain ⟨path, hpath, hstop⟩ := variablesOf?_stops_iff.1 ⟨hfallback, hreported⟩
        exact .fallback hvars hpath hstop
      · cases hnever
  · intro hstops
    cases hstops with
    | vars hpath hstop =>
      obtain ⟨hvars, hreported⟩ := variablesOf?_stops_iff.2 ⟨_, hpath, hstop⟩
      exact ⟨bind_eq_error_iff.2 (.inl hvars), hreported⟩
    | fallback hvars hpath hstop =>
      obtain ⟨hfallback, hreported⟩ := variablesOf?_stops_iff.2 ⟨_, hpath, hstop⟩
      exact ⟨bind_eq_error_iff.2 (.inr ⟨_, hvars, bind_eq_error_iff.2 (.inl hfallback)⟩), hreported⟩

end Requests

/-! ## Commands -/

theorem NameMap.mem_values_of_get? {α : Type} {m : NameMap α} {name : Text} {a : α} (h : m.get? name = some a) :
    a ∈ m.values := by
  have hname : name ∈ m.names := by
    by_contra hother
    rw [(m.get?_eq_none_iff name).2 hother] at h
    cases h
  rw [m.values_eq_filterMap]
  exact List.mem_filterMap.2 ⟨name, hname, h⟩

section Commands

variable {w : Surroundings} {p : Prepared} {crash : Crash}

theorem runRender_eq_error_iff {r : RenderRequest} :
    runRender w p r = .error crash ↔ ∃ e, crash = .load e ∧ RequestStops w r e := by
  simp only [← load_stops_iff]
  unfold runRender
  cases hload : r.load w with
  | error e =>
    cases hreported : e.isReported with
    | true =>
      simp only [hreported, if_true]
      refine ⟨nofun, ?_⟩
      rintro ⟨other, -, hother, hunreported⟩
      cases hother
      rw [hreported] at hunreported
      cases hunreported
    | false =>
      simp only [hreported, Bool.false_eq_true, if_false]
      constructor
      · intro h
        cases h
        exact ⟨e, rfl, rfl, hreported⟩
      · rintro ⟨other, rfl, hother, -⟩
        cases hother
        rfl
  | ok loaded =>
    obtain ⟨vars, fallback⟩ := loaded
    -- The time of a default document is a text, so that a render with a fallback does not stop either.
    have hdocument := p.engine.document_renderWithFallback r.name vars w.now.text
      (.str (orText r.version p.settings.version)) (.str (orText r.source p.settings.source)) fallback w.now.text
    constructor
    · intro h
      simp only at h
      split at h
      · simp only [RenderRequest.context] at h
        rw [hdocument] at h
        cases h
      · cases h
    · rintro ⟨e, -, hnever, -⟩
      cases hnever

/-- The built-in templates are named and their variables described without style tags. -/
theorem templates_unstyled : ∀ t ∈ Builtin.templates, Text.Unstyled t.name ∧ ∀ v ∈ t.declared,
    Text.Unstyled v.name ∧ Text.Unstyled v.type ∧ Text.Unstyled v.description := by
  decide +kernel

theorem variableTable_unstyled {t : Template} (ht : t ∈ Builtin.templates) : (variableTable t).Unstyled where
  title := List.not_mem_nil
  headers := by
    show ∀ header ∈ ["Variable".text, "Type".text, "Required".text, "Description".text], Text.Unstyled header
    decide
  rows row hrow cell hcell := by
    obtain ⟨v, hv, rfl⟩ := List.mem_map.1 hrow
    obtain ⟨hname, htype, hdescription⟩ := (templates_unstyled t ht).2 v hv
    have hrequired : Text.Unstyled (if v.required then "yes" else "no").text := by cases v.required <;> decide
    simp only [List.mem_cons, List.not_mem_nil, or_false] at hcell
    rcases hcell with rfl | rfl | rfl | rfl
    · exact hname
    · exact htype
    · exact hrequired
    · exact hdescription

/-- A template over the built-in ones is one of them, or declares nothing. -/
theorem declared_of_get? {r : Registry} (h : r.templates = Builtin.registry.templates) {name : Text} {t : Template}
    (ht : r.get? name = some t) : t ∈ Builtin.templates ∨ t.declared = [] := by
  unfold Registry.get? at ht
  split at ht
  · cases ht
    exact .inr rfl
  · rw [h] at ht
    exact .inl (NameMap.mem_values_of_get? ht)

theorem variableText_isOk (width : Nat) {t : Template} (ht : t ∈ Builtin.templates ∨ t.declared = []) :
    ∃ u, variableText width t = .ok u := by
  unfold variableText
  split
  · exact ⟨_, rfl⟩
  · rename_i hdeclared
    rcases ht with hmem | hnil
    · obtain ⟨u, hu⟩ := Table.text_of_unstyled (variableTable_unstyled hmem) width
      exact ⟨u, by rw [hu]; rfl⟩
    · rw [hnil] at hdeclared
      exact absurd rfl hdeclared

/-- Describing a template never stops the program. -/
theorem runDescribe_isOk (width : Nat) {e : Engine} (h : e.registry.templates = Builtin.registry.templates)
    (name : Text) : ∃ result, runDescribe width e name = .ok result := by
  unfold runDescribe
  cases hget : e.registry.get? name with
  | none => exact ⟨_, rfl⟩
  | some t =>
    obtain ⟨u, hu⟩ := variableText_isOk width (declared_of_get? h hget)
    exact ⟨_, by simp only [hu]; rfl⟩

/-- Only the name of a customization brings a style tag into a listing. -/
theorem listingTable_unstyled {r : Registry} (h : r.templates = Builtin.registry.templates)
    (hnames : ∀ c ∈ r.listCustom, Text.Unstyled c.name) : (listingTable r.listing).Unstyled where
  title := by
    show Text.Unstyled "Templates".text
    decide
  headers := by
    show ∀ header ∈ ["Name".text, "Kind".text, "Origin".text, "Variables".text], Text.Unstyled header
    decide
  rows row hrow cell hcell := by
    obtain ⟨shown, hshown, rfl⟩ := List.mem_map.1 hrow
    obtain ⟨t, ht, rfl⟩ := List.mem_map.1 hshown
    have hkind : Text.Unstyled t.kind.name := by cases t.kind <;> decide
    have horigin : Text.Unstyled (r.origin t.name).word := by cases r.origin t.name <;> decide
    have hname : Text.Unstyled t.name ∧ ∀ v ∈ t.declared, Text.Unstyled v.name := by
      rcases List.mem_append.1 ht with hbuiltin | hcustom
      · rw [h] at hbuiltin
        obtain ⟨hname, hdeclared⟩ := templates_unstyled t hbuiltin
        exact ⟨hname, fun v hv => (hdeclared v hv).1⟩
      · obtain ⟨c, hc, rfl⟩ := List.mem_map.1 hcustom
        exact ⟨hnames c hc, fun _ hv => absurd hv List.not_mem_nil⟩
    have hdeclared : Text.Unstyled (Text.join ", ".text (t.declared.map (·.name))) :=
      Text.unstyled_join (by decide) (List.forall_mem_map.2 hname.2)
    simp only [List.mem_cons, List.not_mem_nil, or_false] at hcell
    rcases hcell with rfl | rfl | rfl | rfl
    · exact hname.1
    · exact hkind
    · exact horigin
    · exact hdeclared

theorem runList_eq_error_iff {width : Nat} {e : Engine} : runList width e = .error crash ↔
    ∃ why, crash = .style why ∧ (listingTable e.registry.listing).text width = .error why := by
  unfold runList
  cases htext : (listingTable e.registry.listing).text width with
  | error why => simp [bind, Except.bind, mapError_error, eq_comm]
  | ok u => simp [bind, Except.bind, mapError_ok, pure, Except.pure]

/-- What stops a command of a prepared project. -/
inductive CommandStops (w : Surroundings) (p : Prepared) : Command → Crash → Prop
  /-- A name in the listing holds a wrong style tag. -/
  | list {why : StyleError} : (listingTable p.engine.registry.listing).text w.width = .error why →
    CommandStops w p .list (.style why)
  /-- A variable file is not read. -/
  | render {r : RenderRequest} {e : LoadError} : RequestStops w r e → CommandStops w p (.render r) (.load e)

theorem Command.run_eq_error_iff (h : p.engine.registry.templates = Builtin.registry.templates) (c : Command) :
    c.run w p = .error crash ↔ CommandStops w p c crash := by
  cases c with
  | list =>
    refine runList_eq_error_iff.trans ⟨?_, ?_⟩
    · rintro ⟨why, rfl, htext⟩
      exact .list htext
    · intro hstops
      cases hstops with
      | list htext => exact ⟨_, rfl, htext⟩
  | describe name =>
    obtain ⟨result, hresult⟩ := runDescribe_isOk w.width h name
    refine ⟨fun herror => ?_, nofun⟩
    rw [Command.run, hresult] at herror
    cases herror
  | render r =>
    refine runRender_eq_error_iff.trans ⟨?_, ?_⟩
    · rintro ⟨e, rfl, hstops⟩
      exact .render hstops
    · intro hstops
      cases hstops with
      | render hrequest => exact ⟨_, rfl, hrequest⟩

end Commands

/-! ## Programs -/

/-- A text holds half of a surrogate pair, other than the halves that stand for bytes where the output takes bytes. -/
def Surroundings.Refuses (w : Surroundings) (t : Text) : Prop :=
  ∃ q ∈ t, (0xD800 ≤ q.toNat ∧ q.toNat < 0xE000) ∧ ¬(w.takesBytes = true ∧ 0xDC80 ≤ q.toNat ∧ q.toNat < 0xDD00)

/-- What stops a call on a prepared project. -/
inductive CallStops (w : Surroundings) (p : Prepared) (c : Command) : Crash → Prop
  | command {crash : Crash} : CommandStops w p c crash → CallStops w p c crash
  /-- The output of the command is not written. -/
  | output {notices : List Notice} {t : Text} : c.run w p = .ok (notices, .ok t) → w.Refuses t → CallStops w p c .output

/-- Why a run stops without an outcome. -/
inductive Escapes (w : Surroundings) (arguments : List Text) : Crash → Prop
  /-- The page about all commands is asked for, in a form that there is not. -/
  | help {e : ModeError} : AsksHelp arguments → choiceOf .environment w.mode = .error e → Escapes w arguments (.mode e)
  /-- The configuration or a customization is not read. -/
  | project {c : Call} {mode : OutputMode} {e : LoadError} : Calls arguments c →
    resolveMode c.output w.mode w.terminal = .ok mode → ProjectStops w e → Escapes w arguments (.load e)
  /-- The command stops, or its output is not written. -/
  | call {c : Call} {mode : OutputMode} {p : Prepared} {crash : Crash} : Calls arguments c →
    resolveMode c.output w.mode w.terminal = .ok mode → w.Ready p → CallStops w p c.command crash →
    Escapes w arguments crash

section Programs

variable {w : Surroundings} {arguments : List Text} {crash : Crash}

theorem helpPage_title : helpPage.title = .ok programVersion := by decide +kernel

theorem helpPage_unstyled : helpPage.Unstyled where
  summary := by decide
  titles := by decide
  items := by decide +kernel

/-- The page about all commands is written in every form. -/
theorem helpPage_text (width : Nat) (mode : OutputMode) : ∃ u, helpPage.text width mode = .ok u := by
  cases mode with
  | plain => exact HelpPage.plain_of_unstyled helpPage_unstyled
  | rich => exact HelpPage.rich_of_unstyled helpPage_unstyled helpPage_title width

/-- Where nothing is requested, only the choice of the environment may be wrong. -/
theorem resolveMode_none_eq_error_iff {given : Option Text} {terminal : Bool} {e : ModeError} :
    resolveMode none given terminal = .error e ↔ choiceOf .environment given = .error e := by
  have hrequest : choiceOf .request none = .ok none := rfl
  unfold resolveMode
  rw [hrequest]
  cases choiceOf .environment given <;> simp [bind, Except.bind, pure, Except.pure]

theorem runHelp_eq_error_iff :
    runHelp w = .error crash ↔ ∃ e, crash = .mode e ∧ choiceOf .environment w.mode = .error e := by
  rw [runHelp, bind_eq_error_iff, mapError_eq_error_iff]
  constructor
  · rintro (⟨e, he, rfl⟩ | ⟨mode, -, hpage⟩)
    · exact ⟨e, rfl, resolveMode_none_eq_error_iff.1 he⟩
    · obtain ⟨u, hu⟩ := helpPage_text w.width mode
      rw [hu] at hpage
      cases hpage
  · rintro ⟨e, rfl, he⟩
    exact .inl ⟨e, resolveMode_none_eq_error_iff.2 he, rfl⟩

theorem Surroundings.not_takes_iff {t : Text} : ¬w.Takes t ↔ w.Refuses t := by
  simp only [Takes, Refuses, Point.isHalf_iff, FileTree.isStrayByte_iff, not_forall, exists_prop]

/-- The outcome of a text that the output takes. -/
theorem CommandResult.outcome_ok {verbose : Bool} {notices : List Notice} {t : Text} {outcome : Outcome}
    (h : CommandResult.outcome w verbose (notices, .ok t) = .ok outcome) :
    w.Takes t ∧ outcome = ⟨0, t, (noticeLines verbose notices).withEscapedHalves⟩ := by
  unfold CommandResult.outcome at h
  by_cases ht : w.Takes t
  · simp only [if_pos ht, Except.ok.injEq] at h
    exact ⟨ht, h.symm⟩
  · simp only [if_neg ht] at h
    cases h

/-- A result has no outcome only where the output does not take its text. -/
theorem CommandResult.outcome_eq_error_iff {verbose : Bool} {r : CommandResult} :
    CommandResult.outcome w verbose r = .error crash ↔ ∃ t, r.2 = .ok t ∧ w.Refuses t ∧ crash = .output := by
  obtain ⟨notices, result⟩ := r
  cases result with
  | error message => simp [outcome]
  | ok t =>
    unfold outcome
    simp only [← Surroundings.not_takes_iff]
    by_cases ht : w.Takes t
    · simp [ht]
    · simp [ht, eq_comm]

/-- A prepared call stops with its command, or with its output. -/
theorem Call.runPrepared_eq_error_iff {c : Call} {p : Prepared} {notices : List Notice}
    (h : p.engine.registry.templates = Builtin.registry.templates) :
    c.runPrepared w p notices = .error crash ↔ CallStops w p c.command crash := by
  rw [runPrepared, bind_eq_error_iff, Command.run_eq_error_iff h]
  constructor
  · rintro (hstops | ⟨⟨more, result⟩, hrun, herror⟩)
    · exact .command hstops
    · obtain ⟨t, rfl, ht, rfl⟩ := CommandResult.outcome_eq_error_iff.1 herror
      exact .output hrun ht
  · intro hstops
    cases hstops with
    | command hcommand => exact .inl hcommand
    | output hrun ht => exact .inr ⟨_, hrun, CommandResult.outcome_eq_error_iff.2 ⟨_, rfl, ht, rfl⟩⟩

/-- A call stops with its project, with its command or with its output, once there is a form of output. -/
theorem call_eq_error_iff {c : Call} : c.run w = .error crash ↔
    ∃ mode, resolveMode c.output w.mode w.terminal = .ok mode ∧ ((∃ e, crash = .load e ∧ ProjectStops w e) ∨
      ∃ p, w.Ready p ∧ CallStops w p c.command crash) := by
  unfold Call.run
  cases hmode : resolveMode c.output w.mode w.terminal with
  | error e => simp [pure, Except.pure]
  | ok mode =>
    simp only [Except.ok.injEq, exists_eq_left']
    rw [bind_eq_error_iff, prepare_eq_error_iff]
    refine or_congr Iff.rfl ⟨?_, ?_⟩
    · rintro ⟨⟨notices, result⟩, hprepare, herror⟩
      cases result with
      | error message => cases herror
      | ok p =>
        have hready : w.Ready p := ⟨notices, hprepare⟩
        exact ⟨p, hready, (Call.runPrepared_eq_error_iff (templates_of_ready hready)).1 herror⟩
    · rintro ⟨p, hready, hstops⟩
      obtain ⟨notices, hprepare⟩ := hready
      exact ⟨_, hprepare, (Call.runPrepared_eq_error_iff (templates_of_ready ⟨notices, hprepare⟩)).2 hstops⟩

theorem CommandResult.outcome_exit {verbose : Bool} {r : CommandResult} {outcome : Outcome}
    (h : CommandResult.outcome w verbose r = .ok outcome) : outcome.exit = 0 ∨ outcome.exit = 1 := by
  obtain ⟨notices, result⟩ := r
  cases result with
  | ok output =>
    obtain ⟨-, rfl⟩ := outcome_ok h
    exact .inl rfl
  | error message =>
    cases h
    exact .inr rfl

theorem call_exit {c : Call} {outcome : Outcome} (h : c.run w = .ok outcome) :
    outcome.exit = 0 ∨ outcome.exit = 1 ∨ outcome.exit = 2 := by
  unfold Call.run at h
  split at h
  · cases h
    exact .inr (.inr rfl)
  · obtain ⟨⟨notices, result⟩, -, hrest⟩ := bind_eq_ok_iff.1 h
    cases result with
    | error message =>
      cases hrest
      exact .inr (.inl rfl)
    | ok p =>
      obtain ⟨⟨more, given⟩, -, hrest⟩ := bind_eq_ok_iff.1 hrest
      rcases CommandResult.outcome_exit hrest with hexit | hexit
      · exact .inl hexit
      · exact .inr (.inl hexit)

theorem word_not_help (name : CommandName) : name.word ≠ "--version".text ∧ name.word ∉ Options.help.names := by
  cases name <;> decide

theorem run_of_asksHelp (h : AsksHelp arguments) : run w arguments = runHelp w := by
  cases h with
  | nothing => rfl
  | @option word hword =>
    have hversion : word ≠ "--version".text := fun heq => absurd (heq ▸ hword) (by decide)
    have hasks : (([] : List Text).isEmpty && Options.help.names.contains word) = true := by simpa using hword
    rw [run, if_neg hversion, if_pos hasks]

/-- The arguments of a command run it. -/
theorem run_word (name : CommandName) (rest : List Text) : run w (name.word :: rest) = name.run w rest := by
  obtain ⟨hversion, hhelp⟩ := word_not_help name
  have hasks : ¬(rest.isEmpty && Options.help.names.contains name.word) = true := by simp [hhelp]
  rw [run, if_neg hversion, if_neg hasks, name.ofWord?_word]

theorem run_of_calls {c : Call} (h : Calls arguments c) : run w arguments = c.run w := by
  obtain ⟨name, rest, found, rfl, hread, rfl⟩ := h
  rw [run_word, CommandName.run, hread]

/-- Arguments that ask for the page or make a call do so; other arguments have an outcome. -/
theorem run_cases (w : Surroundings) (arguments : List Text) :
    AsksHelp arguments ∨ (∃ c, Calls arguments c) ∨
      ∃ outcome, run w arguments = .ok outcome ∧ (outcome.exit = 0 ∨ outcome.exit = 2) := by
  -- In the order of the program: the version and the page are asked for before a command is looked up.
  cases arguments with
  | nil => exact .inl .nothing
  | cons word rest =>
    by_cases hversion : word = "--version".text
    · exact .inr (.inr ⟨_, by rw [run, if_pos hversion], .inl rfl⟩)
    by_cases hasks : (rest.isEmpty && Options.help.names.contains word) = true
    · obtain ⟨hrest, hword⟩ := Bool.and_eq_true_iff.1 hasks
      rw [List.isEmpty_iff.1 hrest]
      exact .inl (.option (List.contains_iff_mem.1 hword))
    cases hname : CommandName.ofWord? word with
    | none => exact .inr (.inr ⟨_, by rw [run, if_neg hversion, if_neg hasks, hname], .inr rfl⟩)
    | some name =>
      obtain rfl := CommandName.word_of_ofWord? hname
      rw [run_word, CommandName.run]
      cases hread : name.grammar.read rest with
      | ok found => exact .inr (.inl ⟨_, name, rest, found, rfl, hread, rfl⟩)
      | error ended =>
        cases ended with
        | help => exact .inr (.inr ⟨_, rfl, .inl rfl⟩)
        | error e => exact .inr (.inr ⟨_, rfl, .inr rfl⟩)

theorem escapes_iff : run w arguments = .error crash ↔ Escapes w arguments crash := by
  constructor
  · intro h
    rcases run_cases w arguments with hhelp | ⟨c, hcalls⟩ | ⟨outcome, hok, -⟩
    · rw [run_of_asksHelp hhelp] at h
      obtain ⟨e, rfl, he⟩ := runHelp_eq_error_iff.1 h
      exact .help hhelp he
    · rw [run_of_calls hcalls] at h
      obtain ⟨mode, hmode, ⟨e, rfl, hproject⟩ | ⟨p, hready, hstops⟩⟩ := call_eq_error_iff.1 h
      · exact .project hcalls hmode hproject
      · exact .call hcalls hmode hready hstops
    · rw [hok] at h
      cases h
  · intro h
    cases h with
    | help hhelp he =>
      rw [run_of_asksHelp hhelp]
      exact runHelp_eq_error_iff.2 ⟨_, rfl, he⟩
    | project hcalls hmode hproject =>
      rw [run_of_calls hcalls]
      exact call_eq_error_iff.2 ⟨_, hmode, .inl ⟨_, rfl, hproject⟩⟩
    | call hcalls hmode hready hstops =>
      rw [run_of_calls hcalls]
      exact call_eq_error_iff.2 ⟨_, hmode, .inr ⟨_, hready, hstops⟩⟩

/-- A wrong style tag is in the name of a customization. -/
theorem Escapes.bracket {why : StyleError} (h : Escapes w arguments (.style why)) :
    ∃ p, w.Ready p ∧ ∃ c ∈ p.engine.registry.listCustom, Point.char '[' ∈ c.name := by
  cases h with
  | @call c _ p _ _ _ hready hstops =>
    refine ⟨p, hready, ?_⟩
    by_contra hnone
    have hnames : ∀ c ∈ p.engine.registry.listCustom, Text.Unstyled c.name := fun c hc hmem => hnone ⟨c, hc, hmem⟩
    obtain ⟨u, hu⟩ :=
      Table.text_of_unstyled (listingTable_unstyled (templates_of_ready hready) hnames) w.width
    generalize c.command = command at hstops
    cases hstops with
    | command hcommand =>
      cases hcommand with
      | list htext =>
        rw [hu] at htext
        cases htext

theorem run_exit {outcome : Outcome} (h : run w arguments = .ok outcome) :
    outcome.exit = 0 ∨ outcome.exit = 1 ∨ outcome.exit = 2 := by
  rcases run_cases w arguments with hhelp | ⟨c, hcalls⟩ | ⟨other, hok, hexit⟩
  · rw [run_of_asksHelp hhelp] at h
    obtain ⟨mode, -, hrest⟩ := bind_eq_ok_iff.1 h
    obtain ⟨u, -, hpage⟩ := bind_eq_ok_iff.1 hrest
    cases hpage
    exact .inl rfl
  · rw [run_of_calls hcalls] at h
    exact call_exit h
  · rw [hok] at h
    cases h
    rcases hexit with hexit | hexit
    · exact .inl hexit
    · exact .inr (.inr hexit)

/-- **A run stops without an outcome exactly for these reasons**, for all arguments, files, environments and times: the
page about all commands is asked for in a form that there is not; or there is a call with a form of output, and the
configuration, a customization or a variable file is not read, or the listing cannot be set because of a wrong style
tag, which is then in the name of a customization, or the output does not take half of a surrogate pair. Every other
run ends with the exit code zero, one or two. -/
theorem run_escapes_iff (w : Surroundings) (arguments : List Text) :
    (∀ crash, run w arguments = .error crash ↔ Escapes w arguments crash) ∧
      (∀ why, run w arguments = .error (.style why) →
        ∃ p, w.Ready p ∧ ∃ c ∈ p.engine.registry.listCustom, Point.char '[' ∈ c.name) ∧
      ∀ outcome, run w arguments = .ok outcome → outcome.exit = 0 ∨ outcome.exit = 1 ∨ outcome.exit = 2 :=
  ⟨fun _ => escapes_iff, fun _ h => (escapes_iff.1 h).bracket, fun _ h => run_exit h⟩

end Programs

/-- A project with a customization that writes a variable, and a file that sets the variable to half of a surrogate
pair. -/
def halfSurroundings : Surroundings where
  files :=
    { entries :=
        [((fileIn standardCustomDir "note.md".text).parts, .file (Text.utf8 "\x7b\x7bwho\x7d\x7d".text)),
         (["who.json".text], .file (Text.utf8 "\x7b\"who\": \"\\ud800\"\x7d".text))]
      atRoot := false }
  directory := []
  mode := none
  terminal := false
  width := 80
  now := .ofMicroseconds 0

/-- The file is read, and the output does not take the document. -/
example : (Call.mk (.render ⟨"note".text, some (.ofText "who.json".text), false, none, none, none⟩) none false).run
    halfSurroundings = .error .output := by
  decide +kernel

end Stencil
