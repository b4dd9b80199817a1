import Stencil.Proofs.Loading.Sources
import Stencil.Proofs.Loading.Stops
import Stencil.Program.Run

/-!
# Preparing a run

* **Preparing** (`Prepares`) ends in one of six ways. Two of them stop the program: a configuration and a customization
  that are not read. The others give an error or an engine.
* **Projects** (`Project`): settings and customizations with the files that they come from. Every project that is ready
  has the engine of one (`project_of_ready`): the built-in templates, and over them the last customization of each name
  (`Project.engine_covered`).
-/

namespace Stencil

/-! ## Projects -/

namespace Surroundings

/-- The directory of the project. -/
def project (w : Surroundings) : List Text := projectRoot w.files w.directory

/-- The project has settings, and nothing is wrong with them. -/
def Configured (w : Surroundings) (settings : Settings) : Prop :=
  loadConfig w.files w.project = .ok ⟨settings, none⟩

/-- The drafts of the customizations in a directory of the project. -/
def drafts (w : Surroundings) (directory : Path) : Except LoadError (List CustomizationDraft) :=
  loadCustomizations w.files w.project directory (w.files.pathOf w.project)

/-- The project is ready for commands. -/
def Ready (w : Surroundings) (p : Prepared) : Prop := ∃ notices, prepare w = .ok (notices, .ok p)

end Surroundings

/-! ## Ends of preparing -/

/-- How preparing ends. -/
inductive Prepares (w : Surroundings) : Except Crash (List Notice × Except Text Prepared) → Prop
  /-- The configuration is not read. -/
  | configStops {e : LoadError} : loadConfig w.files w.project = .error e → Prepares w (.error (.load e))
  /-- Something is wrong with the configuration. -/
  | misconfigured {settings : Settings} {e : ConfigError} : loadConfig w.files w.project = .ok ⟨settings, some e⟩ →
    Prepares w (.ok ([], .error e.message))
  /-- A file or the directory of the customizations is not found. -/
  | notFound {settings : Settings} {directory : Path} {e : FileError} {shown : Text} : w.Configured settings →
    settings.customDir = some directory → w.drafts directory = .error (.read (.file e shown)) →
    Prepares w (.ok (registeredNotices, .error (e.message shown)))
  /-- A customization is not read. -/
  | customizationStops {settings : Settings} {directory : Path} {e : LoadError} : w.Configured settings →
    settings.customDir = some directory → w.drafts directory = .error e → ¬e.IsFileError →
    Prepares w (.error (.load e))
  /-- A customization has problems. -/
  | refused {settings : Settings} {directory : Path} {ds : List CustomizationDraft} {notices : List Notice}
    {e : TemplateError} : w.Configured settings → settings.customDir = some directory → w.drafts directory = .ok ds →
    customizeAll Builtin.registry ds = (notices, .error e) →
    Prepares w (.ok (registeredNotices ++ notices, .error e.message))
  /-- The customizations cover the built-in templates. -/
  | ready {settings : Settings} {directory : Path} {ds : List CustomizationDraft} {notices : List Notice}
    {r : Registry} : w.Configured settings → settings.customDir = some directory → w.drafts directory = .ok ds →
    customizeAll Builtin.registry ds = (notices, .ok r) →
    Prepares w (.ok (registeredNotices ++ notices, .ok ⟨settings, ⟨r, settings.passes⟩⟩))

/-- Preparing ends in one of the six ways. -/
theorem prepares (w : Surroundings) : Prepares w (prepare w) := by
  unfold prepare
  simp only [bind, Except.bind]
  cases hconfig : loadConfig w.files (projectRoot w.files w.directory) with
  | error e => exact .configStops hconfig
  | ok config =>
    obtain ⟨settings, problem⟩ := config
    cases problem with
    | some e => exact .misconfigured hconfig
    | none =>
      -- Settings without a problem always have a directory, so that the case without one does not arise.
      have hdirectory := (writtenIn_of_loadConfig hconfig).customDir
      simp only [mapError_ok, hdirectory]
      cases hdrafts : loadCustomizations w.files (projectRoot w.files w.directory) _
          (w.files.pathOf (projectRoot w.files w.directory)) with
      | error e =>
        cases e with
        | read why =>
          cases why with
          | file found shown => exact .notFound hconfig hdirectory hdrafts
          | undecodable => exact .customizationStops hconfig hdirectory hdrafts nofun
          | nullInPath => exact .customizationStops hconfig hdirectory hdrafts nofun
          | unencodable f => exact .customizationStops hconfig hdirectory hdrafts nofun
        | _ => exact .customizationStops hconfig hdirectory hdrafts nofun
      | ok ds =>
        cases hcover : customizeAll Builtin.registry ds with
        | mk notices outcome =>
          simp only [hcover]
          cases outcome with
          | error e => exact .refused hconfig hdirectory hdrafts hcover
          | ok r => exact .ready hconfig hdirectory hdrafts hcover

/-! ## Stops -/

/-- What stops the program before its commands. -/
inductive ProjectStops (w : Surroundings) (e : LoadError) : Prop
  /-- The configuration is not read. -/
  | config : ConfigStops w.files w.project e → ProjectStops w e
  /-- A customization is not read. -/
  | customization {settings : Settings} {directory : Path} : w.Configured settings →
    settings.customDir = some directory →
    FirstStops w.files w.project directory (w.files.pathOf w.project) e → ProjectStops w e

variable {w : Surroundings}

theorem projectStops_of_prepare {crash : Crash} (h : prepare w = .error crash) :
    ∃ e, crash = .load e ∧ ProjectStops w e := by
  have hends := prepares w
  rw [h] at hends
  cases hends with
  | configStops hconfig => exact ⟨_, rfl, .config (loadConfig_eq_error_iff.1 hconfig)⟩
  | customizationStops hconfigured hdirectory hdrafts hfile =>
    exact ⟨_, rfl, .customization hconfigured hdirectory (loadCustomizations_stops_iff.1 ⟨hdrafts, hfile⟩)⟩

theorem prepare_of_projectStops {e : LoadError} (h : ProjectStops w e) : prepare w = .error (.load e) := by
  cases h with
  | config hstops =>
    have hconfig : loadConfig w.files (projectRoot w.files w.directory) = .error e := loadConfig_eq_error_iff.2 hstops
    unfold prepare
    simp only [hconfig]
    rfl
  | @customization settings directory hconfigured hdirectory hfirst =>
    obtain ⟨hdrafts, hfile⟩ := loadCustomizations_stops_iff.2 hfirst
    have hconfig : loadConfig w.files (projectRoot w.files w.directory) = .ok ⟨settings, none⟩ := hconfigured
    have hread : loadCustomizations w.files (projectRoot w.files w.directory) directory
      (w.files.pathOf (projectRoot w.files w.directory)) = .error e := hdrafts
    unfold prepare
    simp only [hconfig, bind, Except.bind, mapError_ok, hdirectory, hread]
    split
    · rename_i found shown heq
      cases heq
      exact absurd ⟨found, shown, rfl⟩ hfile
    · rename_i heq
      cases heq
      rfl
    · rename_i heq
      cases heq

/-- Preparing stops the program exactly where the project does. -/
theorem prepare_eq_error_iff {crash : Crash} :
    prepare w = .error crash ↔ ∃ e, crash = .load e ∧ ProjectStops w e := by
  refine ⟨projectStops_of_prepare, ?_⟩
  rintro ⟨e, rfl, hstops⟩
  exact prepare_of_projectStops hstops

/-! ## Engines -/

/-- Drafts without problems cover templates one after the other. -/
theorem customizeAll_eq_ok {ds : List CustomizationDraft} {r r' : Registry} {notices : List Notice}
    (h : customizeAll r ds = (notices, .ok r')) :
    ∃ cs, List.Forall₂ (fun d c => Registry.checkCustomization d = .ok c) ds cs ∧ r' = cs.foldl Registry.cover r := by
  induction ds generalizing r notices with
  | nil =>
    cases h
    exact ⟨[], .nil, rfl⟩
  | cons d ds ih =>
    rw [customizeAll] at h
    split at h
    · cases h
    · rename_i c hc
      cases hrest : customizeAll (r.cover c) ds with
      | mk more outcome =>
        rw [hrest] at h
        cases h
        obtain ⟨cs, hcs, rfl⟩ := ih hrest
        exact ⟨c :: cs, .cons hc hcs, rfl⟩

/-- The first draft with problems is refused. -/
theorem customizeAll_eq_error {ds : List CustomizationDraft} {r : Registry} {notices : List Notice}
    {e : TemplateError} (h : customizeAll r ds = (notices, .error e)) :
    ∃ d ∈ ds, Registry.checkCustomization d = .error e := by
  induction ds generalizing r notices with
  | nil => cases h
  | cons d ds ih =>
    rw [customizeAll] at h
    split at h
    · rename_i hd
      cases h
      exact ⟨d, List.mem_cons_self, hd⟩
    · rename_i c _
      cases hrest : customizeAll (r.cover c) ds with
      | mk more outcome =>
        rw [hrest] at h
        cases h
        obtain ⟨other, hmem, hother⟩ := ih hrest
        exact ⟨other, List.mem_cons_of_mem d hmem, hother⟩

/-- Customizations leave the templates under them as they are. -/
theorem templates_foldl_cover (cs : List Customization) (r : Registry) :
    (cs.foldl Registry.cover r).templates = r.templates := by
  induction cs generalizing r with
  | nil => rfl
  | cons c cs ih => exact ih (r.cover c)

/-- The last customization of a name covers it. -/
theorem getCustom?_foldl_cover (cs : List Customization) (r : Registry) (name : Text) :
    (cs.foldl Registry.cover r).getCustom? name = (cs.reverse.find? (·.name = name)).or (r.getCustom? name) := by
  -- Over any registry: the first customization covers it, and the later ones cover the first.
  induction cs generalizing r with
  | nil => rfl
  | cons c cs ih =>
    rw [List.foldl_cons, ih (r.cover c), List.reverse_cons, List.find?_append, Option.or_assoc]
    congr 1
    have hinsert : (r.cover c).getCustom? name = if name = c.name then some c else r.getCustom? name :=
      NameMap.get?_insert r.overlay c.name name c
    rw [hinsert]
    by_cases hname : name = c.name
    · simp [hname]
    · simp [hname, Ne.symm hname]

/-- The project of a run: its settings, and the customizations of its directory. -/
structure Project (w : Surroundings) where
  settings : Settings
  directory : Path
  /-- The names of the customization files. -/
  names : List Text
  customizations : List Customization
  configured : w.Configured settings
  written : settings.WrittenIn (configDocument w.files w.project)
  customDir : settings.customDir = some directory
  files : CustomizationFiles w.files w.project directory (w.files.pathOf w.project) names
  writes : List.Forall₂ (WritesCustomization w.files w.project directory (w.files.pathOf w.project)) names customizations

namespace Project

variable {w : Surroundings}

/-- The engine of a project: the built-in templates under its customizations, with its pass budget. -/
def engine (p : Project w) : Engine where
  registry := p.customizations.foldl Registry.cover Builtin.registry
  passes := p.settings.passes

/-- The engine has the pass budget of the settings and the built-in templates, and the last customization of a name
covers it. -/
theorem engine_covered (p : Project w) : p.engine.passes = p.settings.passes ∧
    p.engine.registry.templates = Builtin.registry.templates ∧
    ∀ name, p.engine.registry.getCustom? name = p.customizations.reverse.find? (·.name = name) := by
  refine ⟨rfl, templates_foldl_cover p.customizations Builtin.registry, fun name => ?_⟩
  have hnone : Builtin.registry.getCustom? name = none := rfl
  rw [engine, getCustom?_foldl_cover, hnone, Option.or_none]

end Project

/-- A project that is ready has the settings and the engine of its files. -/
theorem project_of_ready {p : Prepared} (h : w.Ready p) :
    ∃ project : Project w, p.settings = project.settings ∧ p.engine = project.engine := by
  obtain ⟨notices, hprepare⟩ := h
  have hends := prepares w
  rw [hprepare] at hends
  cases hends with
  | ready hconfigured hdirectory hdrafts hcover =>
    obtain ⟨cs, hvalid, rfl⟩ := customizeAll_eq_ok hcover
    obtain ⟨names, hfiles, hread⟩ := files_of_loadCustomizations hdrafts
    refine ⟨⟨_, _, names, cs, hconfigured, writtenIn_of_loadConfig hconfigured, hdirectory, hfiles, ?_⟩, rfl, rfl⟩
    have hnamed : ∀ name ∈ names, Text.endsWith ".md".text name = true :=
      fun name hname => ((hfiles.mem_iff name).1 hname).2.2
    exact forall₂_trans ((List.forall₂_and_left names _).2 ⟨hnamed, hread⟩) hvalid fun _ _ _ hname hd =>
      writesCustomization_of_read hname.1 hname.2 hd

/-- The engine of a project has the built-in templates. -/
theorem templates_of_ready {p : Prepared} (h : w.Ready p) :
    p.engine.registry.templates = Builtin.registry.templates := by
  obtain ⟨project, -, hengine⟩ := project_of_ready h
  rw [hengine]
  exact project.engine_covered.2.1

end Stencil
