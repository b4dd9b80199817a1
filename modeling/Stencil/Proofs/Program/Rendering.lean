import Stencil.Proofs.Program.Escapes
import Stencil.Proofs.Text.Utf8

/-!
# What a render writes

* **Renderings** (`Rendering`): the project of a run with the variables of a request, and the context and the engine
  that they make.
* **Ends** (`RenderEnds`): a render writes the document of its rendering, or only why there is none.
* **Outcomes** (`render_pipeline`): the document with a newline at its end where the exit code is zero, and nothing but
  errors where it is one. With a fallback only files bring errors.
-/

namespace Stencil

/-! ## Printing -/

section Printing

theorem Text.breakWords_ne_nil (width : Nat) (overflow : Overflow) (ws : List Text) :
    ∀ (line : Text) (used : Nat), breakWords width overflow line used ws ≠ [] := by
  induction ws with
  | nil => exact fun _ _ => List.cons_ne_nil _ _
  | cons w ws ih =>
    intro line used
    rw [breakWords]
    simp only
    split
    · exact ih _ _
    · split
      · exact List.append_ne_nil_of_right_ne_nil _ (ih _ _)
      · exact List.append_ne_nil_of_right_ne_nil _ (ih _ _)

theorem Text.Fit.line_ne_nil (f : Fit) (t : Text) : f.line t ≠ [] := by
  rw [line]
  simp only [ne_eq, List.map_eq_nil_iff]
  split
  · exact breakWords_ne_nil _ _ _ _ _
  · exact List.cons_ne_nil _ _

theorem Text.Fit.lines_ne_nil (f : Fit) (t : Text) : f.lines t ≠ [] := by
  obtain ⟨piece, pieces, hpieces⟩ := List.exists_cons_of_ne_nil (splitAt_ne_nil '\n' t)
  rw [lines, Text.lines, hpieces, List.flatMap_cons]
  exact List.append_ne_nil_of_left_ne_nil (f.line_ne_nil piece) _

/-- Whatever is printed, there is a line of it. -/
theorem printLines_ne_nil (width : Nat) (t : Text) : printLines width t ≠ [] := by
  obtain ⟨line, lines, hlines⟩ := List.exists_cons_of_ne_nil
    (Text.Fit.lines_ne_nil ⟨width, .fold, true⟩ (Text.withoutControls t))
  rw [printLines, hlines, Text.unlines, List.flatMap_cons]
  exact List.append_ne_nil_of_left_ne_nil (List.append_ne_nil_of_right_ne_nil _ (List.cons_ne_nil _ _)) _

/-- Escapes leave nothing out. -/
theorem Text.withEscapedHalves_ne_nil {t : Text} (h : t ≠ []) : t.withEscapedHalves ≠ [] := by
  obtain ⟨p, ps, rfl⟩ := List.exists_cons_of_ne_nil h
  have hfirst : (if p.isHalf then Text.numericEscape p else [p]) ≠ [] := by
    simp only [Text.numericEscape]
    split_ifs <;> exact List.cons_ne_nil _ _
  rw [Text.withEscapedHalves, List.flatMap_cons]
  exact List.append_ne_nil_of_left_ne_nil hfirst _

/-- The errors of a run with a message are not empty. -/
theorem errors_ne_nil (width : Nat) (notices message : Text) :
    (Outcome.ofErrors 1 (notices ++ printLines width message)).errors ≠ [] :=
  Text.withEscapedHalves_ne_nil (List.append_ne_nil_of_right_ne_nil _ (printLines_ne_nil width message))

end Printing

/-! ## Renderings -/

/-- The variables in a file, if there is one. -/
inductive FileVariables (w : Surroundings) : Option Path → Option Fields → Prop
  | none : FileVariables w none none
  | file {path : Path} {fields : Fields} : loadVariables w.files w.directory path = .ok fields →
    FileVariables w (some path) (some fields)

/-- A text of the metadata: the one that is asked for, unless it is empty, or else the one that a document sets, without
the blanks around it, or else the standard one. -/
inductive Chosen (asked : Option Text) (raw : Fields) (name : String) (standard : Text) : Text → Prop
  | asked {t : Text} : asked = some t → t ≠ [] → Chosen asked raw name standard t
  | written {u t : Text} : asked.getD [] = [] → (tableFields raw .metadata).get? name.text = some (.str u) →
    u.Trimmed t → t ≠ [] → Chosen asked raw name standard t
  | standard : asked.getD [] = [] →
    (∀ u, (tableFields raw .metadata).get? name.text = some (.str u) → Text.IsBlank u) →
    Chosen asked raw name standard standard

theorem chosen_orText (asked : Option Text) (raw : Fields) (name : String) (standard : Text) :
    Chosen asked raw name standard (orText asked ((setText? raw .metadata name).getD standard)) := by
  have hunasked : asked.getD [] = [] →
      Chosen asked raw name standard ((setText? raw .metadata name).getD standard) := by
    intro hasked
    rcases bind_nonBlank?_cases ((tableFields raw .metadata).get? name.text) with
      ⟨t, ht, hset, hstrip⟩ | ⟨hnone, hblank⟩
    · rw [setText?, ht]
      exact .written hasked hset t.trimmed_strip hstrip
    · rw [setText?, hnone]
      exact .standard hasked hblank
  rcases asked with _ | _ | ⟨c, cs⟩
  · exact hunasked rfl
  · exact hunasked rfl
  · exact .asked rfl (List.cons_ne_nil c cs)

/-- What a request renders with: the project, the variables in the files of the request, and the version and the source
that it asks for or that the configuration file sets. -/
structure Rendering (w : Surroundings) (r : RenderRequest) extends Project w where
  vars : Option Fields
  fallback : Option Fields
  version : Text
  source : Text
  vars_in : FileVariables w r.vars vars
  fallback_in : FileVariables w r.fallbackVariables fallback
  version_chosen : Chosen r.version (configDocument w.files w.project) "version" "1.0.0".text version
  source_chosen : Chosen r.source (configDocument w.files w.project) "source" "docsync".text source

namespace Rendering

variable {w : Surroundings} {r : RenderRequest}

/-- The context of a rendering, at the present time. -/
def context (p : Rendering w r) : Context := ⟨p.vars.getD [], ⟨.str w.now.text, .str p.version, .str p.source⟩⟩

/-- A rendering gives a document, with a fallback where one is asked for. -/
def Gives (p : Rendering w r) (document : Text) : Prop :=
  if r.fallback then
    (p.engine.renderWithFallback r.name p.context p.fallback w.now.text).1 = .ok document
  else p.engine.render r.name p.context = .ok document

end Rendering

/-! ## Ends of a render -/

/-- What is wrong with the files of a request, and how it is told. -/
inductive FilesFail (w : Surroundings) (r : RenderRequest) : Text → Prop
  /-- Something is wrong with the configuration. -/
  | config {settings : Settings} {e : ConfigError} : loadConfig w.files w.project = .ok ⟨settings, some e⟩ →
    FilesFail w r e.message
  /-- A customization file is not read. -/
  | customizationFile {settings : Settings} {directory : Path} {e : FileError} {shown : Text} :
    w.Configured settings → settings.customDir = some directory →
    w.drafts directory = .error (.read (.file e shown)) → FilesFail w r (e.message shown)
  /-- A customization has problems. -/
  | customization {settings : Settings} {directory : Path} {ds : List CustomizationDraft} {d : CustomizationDraft}
    {e : TemplateError} : w.Configured settings → settings.customDir = some directory →
    w.drafts directory = .ok ds → d ∈ ds → Registry.checkCustomization d = .error e → FilesFail w r e.message
  /-- A file of variables is not read. -/
  | variables {path : Path} {e : LoadError} : (r.vars = some path ∨ r.fallbackVariables = some path) →
    loadVariables w.files w.directory path = .error e → FilesFail w r e.message

/-- The output of a document: the document, with a newline at its end where there is none. -/
inductive Ended (document : Text) : Text → Prop
  | whole : document.getLast? = some (Point.char '\n') → Ended document document
  | newline : document.getLast? ≠ some (Point.char '\n') → Ended document (document ++ [Point.char '\n'])

theorem ended_withFinalNewline (document : Text) : Ended document (withFinalNewline document) := by
  have hends : Text.endsWith ['\n'] document = true ↔ document.getLast? = some (Point.char '\n') := by
    rw [Text.endsWith, List.isSuffixOf_iff_suffix, List.getLast?_eq_some_iff]
    exact exists_congr fun t => eq_comm
  unfold withFinalNewline
  split
  · rename_i hnewline
    exact .whole (hends.1 hnewline)
  · rename_i hnone
    exact .newline (mt hends.2 hnone)

/-- How a render ends. -/
inductive RenderEnds (w : Surroundings) (r : RenderRequest) : Except Text Text → Prop
  | document {document output : Text} (p : Rendering w r) : p.Gives document → Ended document output →
    RenderEnds w r (.ok output)
  | files {message : Text} : FilesFail w r message → RenderEnds w r (.error message)
  | template {e : TemplateError} (p : Rendering w r) : r.fallback = false →
    p.engine.render r.name p.context = .error e → RenderEnds w r (.error e.message)

section Ends

variable {w : Surroundings} {r : RenderRequest}

/-- What is told before the commands is wrong with the files. -/
theorem filesFail_of_prepare {notices : List Notice} {message : Text} (h : prepare w = .ok (notices, .error message)) :
    FilesFail w r message := by
  have hends := prepares w
  rw [h] at hends
  cases hends with
  | misconfigured hconfig => exact .config hconfig
  | notFound hconfigured hdirectory hdrafts => exact .customizationFile hconfigured hdirectory hdrafts
  | refused hconfigured hdirectory hdrafts hcover =>
    obtain ⟨d, hd, he⟩ := customizeAll_eq_error hcover
    exact .customization hconfigured hdirectory hdrafts hd he

theorem fileVariables_of_variablesOf? {given : Option Path} {found : Option Fields}
    (h : variablesOf? w given = .ok found) : FileVariables w given found := by
  cases given with
  | none =>
    cases h
    exact .none
  | some path =>
    cases hload : loadVariables w.files w.directory path <;> rw [variablesOf?, hload] at h <;> cases h
    exact .file hload

theorem filesFail_of_load {e : LoadError} (h : r.load w = .error e) : FilesFail w r e.message := by
  rcases bind_eq_error_iff.1 h with hvars | ⟨vars, -, hrest⟩
  · obtain ⟨path, hpath, hload⟩ := variablesOf?_eq_error_iff.1 hvars
    exact .variables (.inl hpath) hload
  · rcases bind_eq_error_iff.1 hrest with hfallback | ⟨_, _, hnever⟩
    · obtain ⟨path, hpath, hload⟩ := variablesOf?_eq_error_iff.1 hfallback
      exact .variables (.inr hpath) hload
    · cases hnever

/-- A project and the variables of a request make a rendering, and what is rendered with is its context. -/
theorem rendering_of_load (project : Project w) {vars : Fields} {fallback : Option Fields}
    (h : r.load w = .ok (vars, fallback)) : ∃ p : Rendering w r, p.toProject = project ∧ p.fallback = fallback ∧
      r.context project.settings w.now vars = p.context := by
  obtain ⟨found, hvars, hrest⟩ := bind_eq_ok_iff.1 h
  obtain ⟨others, hfallback, hboth⟩ := bind_eq_ok_iff.1 hrest
  obtain ⟨rfl, rfl⟩ := Prod.mk.inj (Except.ok.inj hboth)
  refine ⟨⟨project, found, others, _, _, fileVariables_of_variablesOf? hvars, fileVariables_of_variablesOf? hfallback,
    chosen_orText _ _ _ _, chosen_orText _ _ _ _⟩, rfl, rfl, ?_⟩
  rw [RenderRequest.context, project.written.version, project.written.source]
  rfl

/-- A render of a project that is ready gives the document of a rendering, or tells why there is none. -/
theorem renderEnds_of_runRender {p : Prepared} {notices : List Notice} {result : Except Text Text} (hready : w.Ready p)
    (h : runRender w p r = .ok (notices, result)) : RenderEnds w r result := by
  obtain ⟨project, hsettings, hengine⟩ := project_of_ready hready
  unfold runRender at h
  cases hload : r.load w with
  | error e =>
    rw [hload] at h
    simp only at h
    split at h
    · cases h
      exact .files (filesFail_of_load hload)
    · cases h
  | ok loaded =>
    obtain ⟨vars, fallback⟩ := loaded
    obtain ⟨rendering, rfl, rfl, hcontext⟩ := rendering_of_load project hload
    rw [hload] at h
    simp only [hsettings, hengine, hcontext] at h
    split at h
    · rename_i hfallback
      obtain ⟨document, hdocument, hresult⟩ := bind_eq_ok_iff.1 h
      cases hresult
      refine .document rendering ?_ (ended_withFinalNewline document)
      rw [Rendering.Gives, if_pos hfallback]
      exact mapError_eq_ok_iff.1 hdocument
    · rename_i hfallback
      cases h
      change RenderEnds w r (((rendering.engine.render r.name rendering.context).map withFinalNewline).mapError
        TemplateError.message)
      cases hrender : rendering.engine.render r.name rendering.context with
      | ok document =>
        refine .document rendering ?_ (ended_withFinalNewline document)
        rw [Rendering.Gives, if_neg hfallback]
        exact hrender
      | error e => exact .template rendering (Bool.eq_false_iff.2 hfallback) hrender

end Ends

/-! ## Outcomes -/

section Outcomes

variable {w : Surroundings} {arguments : List Text} {c : Call} {r : RenderRequest} {mode : OutputMode}
  {outcome : Outcome}

/-- What a call of a render writes is how the render ends. -/
theorem outcome_of_render (hcalls : Calls arguments c) (hcommand : c.command = .render r)
    (hmode : resolveMode c.output w.mode w.terminal = .ok mode) (hrun : run w arguments = .ok outcome) :
    ∃ notices result, RenderEnds w r result ∧
      CommandResult.outcome w c.verbose (notices, result) = .ok outcome := by
  rw [run_of_calls hcalls, Call.run, hmode] at hrun
  -- Whatever is wrong before the command is wrong with the files; only the command brings errors of the template.
  obtain ⟨⟨notices, prepared⟩, hprepare, hrest⟩ := bind_eq_ok_iff.1 hrun
  cases prepared with
  | error message =>
    exact ⟨notices, .error message, .files (filesFail_of_prepare hprepare), hrest⟩
  | ok p =>
    obtain ⟨⟨more, result⟩, hresult, hrest⟩ := bind_eq_ok_iff.1 hrest
    rw [hcommand] at hresult
    exact ⟨notices ++ more, result, renderEnds_of_runRender ⟨notices, hprepare⟩ hresult, hrest⟩

/-- **A render writes the document of its rendering, or nothing but errors.** For every call of a render in the plain
form, all files, environments and times: if the run has an outcome, then its exit code is zero or one. Where it is zero,
the output is the document that the engine of the project gives in the context of the request, with a newline at its end
where there is none. The context has the variables of the file that the request names, the present time, and the version
and the source that the request asks for, or else those of the configuration file, or else the standard ones. The engine
has the pass budget that the configuration file sets, or else ten, and the built-in templates; the last customization of
a name covers it. Where the exit code is one, there is no output, and the errors end with what is wrong: with the files
of the configuration, the customizations or the variables, or, unless a fallback is asked for, with the template. -/
theorem render_pipeline (hcalls : Calls arguments c) (hcommand : c.command = .render r)
    (hmode : resolveMode c.output w.mode w.terminal = .ok .plain) (hrun : run w arguments = .ok outcome) :
    (outcome.exit = 0 ∨ outcome.exit = 1) ∧
    (outcome.exit = 0 → ∃ (p : Rendering w r) (document : Text),
      p.Gives document ∧ Ended document outcome.output ∧
      (p.engine.passes.val : Int) = (setPasses? (configDocument w.files w.project)).getD 10 ∧
      p.engine.registry.templates = Builtin.registry.templates ∧
      ∀ name, p.engine.registry.getCustom? name = p.customizations.reverse.find? (·.name = name)) ∧
    (outcome.exit = 1 → outcome.output = [] ∧ outcome.errors ≠ [] ∧
      ∃ notices message,
        outcome.errors = (noticeLines c.verbose notices ++ printLines w.width message).withEscapedHalves ∧
        (FilesFail w r message ∨ r.fallback = false ∧ ∃ (p : Rendering w r) (e : TemplateError),
          p.engine.render r.name p.context = .error e ∧ message = e.message)) := by
  obtain ⟨notices, result, hends, houtcome⟩ := outcome_of_render hcalls hcommand hmode hrun
  cases hends with
  | document p hgives hended =>
    obtain ⟨-, rfl⟩ := CommandResult.outcome_ok houtcome
    obtain ⟨hpasses, hcovered⟩ := p.engine_covered
    refine ⟨.inl rfl, fun _ => ⟨p, _, hgives, hended, ?_, hcovered⟩, fun hexit => ?_⟩
    · rw [hpasses]
      exact p.written.passes
    · cases hexit
  | @files message hfail =>
    cases houtcome
    refine ⟨.inr rfl, fun hexit => ?_, fun _ => ⟨rfl, ?_, notices, message, rfl, .inl hfail⟩⟩
    · cases hexit
    · exact errors_ne_nil _ _ _
  | @template e p hfallback hrender =>
    cases houtcome
    refine ⟨.inr rfl, fun hexit => ?_,
      fun _ => ⟨rfl, ?_, notices, e.message, rfl, .inr ⟨hfallback, p, e, hrender, rfl⟩⟩⟩
    · cases hexit
    · exact errors_ne_nil _ _ _

/-- A project whose configuration file sets a version and a source, and whose customization file names itself. -/
def noteSurroundings : Surroundings where
  files :=
    { entries :=
        [(configPath.parts, .file (Text.utf8 "[metadata]\nversion = '2'\nsource = ' team '\n".text)),
         ((fileIn standardCustomDir "z.md".text).parts,
           .file (Text.utf8 "---\nname: note\n---\nv{{version}} by {{source}}".text))]
      atRoot := false }
  directory := []
  mode := none
  terminal := false
  width := 80
  now := .ofMicroseconds 0

/-- A request for the customization with a version, and with a source that is empty. -/
def noteRequest : RenderRequest := ⟨"note".text, none, false, none, some "3".text, some []⟩

/-- The arguments of the request. -/
def noteArguments : List Text :=
  [CommandName.render.word, "note".text, "--version".text, "3".text, "--source".text, []]

section Tokens

variable {g : ArgumentGrammar} {names : List Text} {bound : Bool} {t name : Text} {ts : List Token} {reading : Reading}

theorem readTokens_operand (hrest : g.readTokens names true ts = .ok reading) :
    g.readTokens (name :: names) bound (.operand t :: ts) = .ok (reading.after [⟨name, some t⟩] []) := by
  rw [ArgumentGrammar.readTokens]
  exact bind_eq_ok_iff.2 ⟨reading, hrest, rfl⟩

theorem readTokens_value {o : OptionDecl} {finding : Finding} (hvalue : o.takesValue = true)
    (htake : takeOption o (some t) = .ok finding) (hrest : g.readTokens names false ts = .ok reading) :
    g.readTokens names bound (.option name o none :: .operand t :: ts) = .ok (reading.after [finding] []) := by
  have hcluster : (Cluster.mk [] (some o)).take (some t) = .ok ([finding], 1) := by
    simp [Cluster.take, hvalue, takeOptions, htake, bind, Except.bind, pure, Except.pure]
  rw [ArgumentGrammar.readTokens]
  exact bind_eq_ok_iff.2 ⟨_, rfl, bind_eq_ok_iff.2 ⟨_, hcluster, bind_eq_ok_iff.2 ⟨reading, hrest, rfl⟩⟩⟩

theorem calls_note : Calls noteArguments ⟨.render noteRequest, none, false⟩ := by
  have htokens : CommandName.render.grammar.tokens
      ["note".text, "--version".text, "3".text, "--source".text, []] =
      .ok [.operand "note".text, .option "--version".text Options.version none, .operand "3".text,
        .option "--source".text Options.source none, .operand []] := by decide +kernel
  have hnothing : CommandName.render.grammar.readTokens [] false [] = .ok ⟨[], [], []⟩ := by
    rw [ArgumentGrammar.readTokens]
  have hread : CommandName.render.grammar.read
      ["note".text, "--version".text, "3".text, "--source".text, []] =
      .ok [⟨templateOperand, some "note".text⟩, ⟨Options.version.key, some "3".text⟩,
        ⟨Options.source.key, some []⟩] := by
    have hoperands : CommandName.render.grammar.operands = [templateOperand] := rfl
    rw [ArgumentGrammar.read, htokens, mapError_ok, hoperands]
    exact bind_eq_ok_iff.2 ⟨_, rfl, bind_eq_ok_iff.2
      ⟨_, readTokens_operand (readTokens_value rfl rfl (readTokens_value rfl rfl hnothing)), rfl⟩⟩
  exact ⟨.render, _, _, rfl, hread, by decide +kernel⟩

end Tokens

/-- The version is that of the arguments and the source that of the configuration file, where it stands between blanks;
the name is that of the front matter, and the document gets a newline. -/
theorem render_pipeline_note : ∃ (outcome : Outcome) (p : Rendering noteSurroundings noteRequest) (document : Text),
    run noteSurroundings noteArguments = .ok outcome ∧ outcome.exit = 0 ∧ outcome.output = "v3 by team\n".text ∧
      p.Gives document ∧ Ended document outcome.output ∧ p.version = "3".text ∧ p.source = "team".text := by
  have hrun : run noteSurroundings noteArguments = .ok ⟨0, "v3 by team\n".text, []⟩ :=
    (run_of_calls calls_note).trans (eq_ok_of_toOption (by decide +kernel))
  obtain ⟨-, hdocument, -⟩ := render_pipeline calls_note rfl rfl hrun
  obtain ⟨p, document, hgives, hended, -⟩ := hdocument rfl
  have hset : ((tableFields (configDocument noteSurroundings.files noteSurroundings.project) .metadata).get?
      "source".text).bind Value.text? = some " team ".text := by decide +kernel
  obtain ⟨v, hv, htext⟩ := Option.bind_eq_some_iff.1 hset
  obtain rfl := Value.text?_eq_some htext
  refine ⟨_, p, document, hrun, rfl, rfl, hgives, hended, ?_, ?_⟩
  · generalize p.version = version, p.version_chosen = hversion
    cases hversion with
    | asked hasked => exact (Option.some.inj hasked).symm
    | written hasked => cases hasked
    | standard hasked => cases hasked
  · generalize p.source = source, p.source_chosen = hsource
    cases hsource with
    | asked hasked hne => exact absurd (Option.some.inj hasked).symm hne
    | written _ hu htrimmed =>
      cases hu.symm.trans hv
      exact htrimmed.eq_strip
    | standard _ hblank => exact absurd (hblank _ hv) (by decide)

end Outcomes

end Stencil
