import Stencil.Proofs.Loading.Sources
import Stencil.Proofs.Text.Blanks
import Stencil.Proofs.Text.Utf8

/-!
# Which configuration files are accepted

* **Documents** (`Acceptable`): the tables are tables, the pass budget is a positive integer, and the texts are texts
  with something in them, each where it is there at all. These are the documents that have settings
  (`settingsOf_ok_iff`).
* **All or nothing** (`config_all_or_nothing`): the settings of an accepted file are those that it writes
  (`Config.Accepted`). Any other file gives none of them (`Config.Refused`).
-/

namespace Stencil

/-! ## Documents -/

namespace TextSetting

/-- The table that a setting stands in. -/
def table : TextSetting → ConfigTable
  | customDir => .templates
  | version | source => .metadata

/-- The name of a setting in its table. -/
def key : TextSetting → String
  | customDir => "custom_dir"
  | version => "version"
  | source => "source"

end TextSetting

/-- A document whose settings are of the kinds that they have to be. -/
structure Acceptable (raw : Fields) : Prop where
  tables : ∀ table : ConfigTable, ∀ v ∈ raw.get? table.name, ∃ fields, v = .record fields
  passes : ∀ v ∈ (tableFields raw .templates).get? "max_passes".text, ∃ n, v = .int n ∧ 1 ≤ n
  texts : ∀ s : TextSetting, ∀ v ∈ (tableFields raw s.table).get? s.key.text, ∃ t, v = .str t ∧ ¬Text.IsBlank t

section Documents

variable {raw fields : Fields}

theorem tableOf_ok_iff {table : ConfigTable} : (∃ fields, tableOf raw table = .ok fields) ↔
    ∀ v ∈ raw.get? table.name, ∃ fields, v = .record fields := by
  unfold tableOf
  cases raw.get? table.name with
  | none => simp
  | some v => cases v <;> simp

theorem passesOf_ok_iff : (∃ passes, passesOf fields = .ok passes) ↔
    ∀ v ∈ fields.get? "max_passes".text, ∃ n, v = .int n ∧ 1 ≤ n := by
  unfold passesOf
  cases fields.get? "max_passes".text with
  | none => simp
  | some v =>
    cases v with
    | int n =>
      have hbudget : (∃ passes, passBudget n = .ok passes) ↔ 1 ≤ n := by
        unfold passBudget
        split <;> simp <;> omega
      simpa [mapError_eq_ok_iff] using hbudget
    | _ => simp

theorem exists_nonBlank?_iff {v : Value} : (∃ t, nonBlank? v = some t) ↔ ∃ t, v = .str t ∧ ¬Text.IsBlank t := by
  cases v <;> simp [nonBlank?]

theorem textOf_ok_iff {name : String} (setting : TextSetting) : (∃ t, textOf fields name setting = .ok t) ↔
    ∀ v ∈ fields.get? name.text, ∃ t, v = .str t ∧ ¬Text.IsBlank t := by
  unfold textOf
  cases fields.get? name.text with
  | none => simp
  | some v =>
    simp only [Option.mem_some_iff, forall_eq', ← exists_nonBlank?_iff]
    cases nonBlank? v <;> simp

/-- The documents that have settings. -/
theorem settingsOf_ok_iff : (∃ settings, settingsOf raw = .ok settings) ↔ Acceptable raw := by
  constructor
  · rintro ⟨settings, h⟩
    obtain ⟨templates, htemplates, h⟩ := bind_eq_ok_iff.1 h
    obtain ⟨metadata, hmetadata, h⟩ := bind_eq_ok_iff.1 h
    obtain ⟨passes, hpasses, h⟩ := bind_eq_ok_iff.1 h
    obtain ⟨customDir, hcustomDir, h⟩ := bind_eq_ok_iff.1 h
    obtain ⟨version, hversion, h⟩ := bind_eq_ok_iff.1 h
    obtain ⟨source, hsource, -⟩ := bind_eq_ok_iff.1 h
    obtain rfl := tableFields_of_tableOf htemplates
    obtain rfl := tableFields_of_tableOf hmetadata
    refine ⟨fun table => ?_, passesOf_ok_iff.1 ⟨_, hpasses⟩, fun s => ?_⟩
    · cases table with
      | templates => exact tableOf_ok_iff.1 ⟨_, htemplates⟩
      | metadata => exact tableOf_ok_iff.1 ⟨_, hmetadata⟩
    · cases s with
      | customDir => exact (textOf_ok_iff _).1 ⟨_, hcustomDir⟩
      | version => exact (textOf_ok_iff _).1 ⟨_, hversion⟩
      | source => exact (textOf_ok_iff _).1 ⟨_, hsource⟩
  · intro h
    obtain ⟨templates, htemplates⟩ := tableOf_ok_iff.2 (h.tables .templates)
    obtain ⟨metadata, hmetadata⟩ := tableOf_ok_iff.2 (h.tables .metadata)
    obtain rfl := tableFields_of_tableOf htemplates
    obtain rfl := tableFields_of_tableOf hmetadata
    obtain ⟨passes, hpasses⟩ := passesOf_ok_iff.2 h.passes
    obtain ⟨customDir, hcustomDir⟩ := (textOf_ok_iff .customDir).2 (h.texts .customDir)
    obtain ⟨version, hversion⟩ := (textOf_ok_iff .version).2 (h.texts .version)
    obtain ⟨source, hsource⟩ := (textOf_ok_iff .source).2 (h.texts .source)
    exact ⟨_, bind_eq_ok_iff.2 ⟨_, htemplates, bind_eq_ok_iff.2 ⟨_, hmetadata, bind_eq_ok_iff.2 ⟨_, hpasses,
      bind_eq_ok_iff.2 ⟨_, hcustomDir, bind_eq_ok_iff.2 ⟨_, hversion, bind_eq_ok_iff.2 ⟨_, hsource, rfl⟩⟩⟩⟩⟩⟩⟩

theorem isOk_settingsOf_iff : (settingsOf raw).isOk = true ↔ Acceptable raw := by
  rw [← settingsOf_ok_iff]
  cases settingsOf raw <;> simp [Except.isOk, Except.toBool]

instance (raw : Fields) : Decidable (Acceptable raw) := decidable_of_iff _ isOk_settingsOf_iff

end Documents

/-- A text that a document sets is not blank. -/
theorem not_isBlank_of_setText? {raw : Fields} {table : ConfigTable} {name : String} {t : Text}
    (h : setText? raw table name = some t) : ¬Text.IsBlank t := by
  obtain ⟨u, hu, rfl⟩ := Option.map_eq_some_iff.1 h
  obtain ⟨v, -, hv⟩ := Option.bind_eq_some_iff.1 hu
  obtain ⟨u', rfl, hblank⟩ := exists_nonBlank?_iff.1 ⟨u, hv⟩
  rw [nonBlank?, if_neg hblank] at hv
  obtain rfl := Option.some.inj hv
  exact mt Text.isBlank_strip.1 hblank

/-! ## All or nothing -/

/-- Every message names the configuration file. -/
theorem ConfigError.message_ne_nil (e : ConfigError) : e.message ≠ [] := by
  have hpath : configPath.text ≠ [] := by decide
  cases e with
  | malformed reason =>
    exact List.append_ne_nil_of_left_ne_nil
      (List.append_ne_nil_of_left_ne_nil (List.append_ne_nil_of_right_ne_nil _ hpath) _) _
  | _ => exact List.append_ne_nil_of_left_ne_nil (List.append_ne_nil_of_left_ne_nil hpath _) _

namespace Config

/-- A configuration with all the settings of a document, which the rest of the program can take. -/
structure Accepted (config : Config) (raw : Fields) : Prop where
  settings : config.settings.WrittenIn raw
  passes : passBudget config.settings.passes.val = .ok config.settings.passes
  version : ¬Text.IsBlank config.settings.version
  source : ¬Text.IsBlank config.settings.source

/-- A configuration with an error and none of the settings of a document. -/
structure Refused (config : Config) : Prop where
  passes : config.settings.passes = defaultPasses
  version : config.settings.version = Metadata.defaultVersion
  source : config.settings.source = Metadata.defaultSource
  customDir : config.settings.customDir = none
  error : ∃ e ∈ config.error, e.message ≠ []

theorem refused_ofError (e : ConfigError) : (ofError e).Refused where
  passes := rfl
  version := rfl
  source := rfl
  customDir := rfl
  error := ⟨e, rfl, e.message_ne_nil⟩

end Config

theorem passBudget_val (passes : PassBudget) : passBudget passes.val = .ok passes := by
  have hpos : (0 : Int) < passes.val := Int.natCast_pos.2 passes.property
  rw [passBudget, dif_pos hpos]
  rfl

/-- The texts of the settings of a document are not blank. -/
theorem Settings.WrittenIn.accepted {settings : Settings} {raw : Fields} (h : settings.WrittenIn raw)
    (error : Option ConfigError) : Config.Accepted ⟨settings, error⟩ raw := by
  have hblank : ∀ (name : String) (default : Text), ¬Text.IsBlank default →
      ¬Text.IsBlank ((setText? raw .metadata name).getD default) := by
    intro name default hdefault
    cases hset : setText? raw .metadata name with
    | none => exact hdefault
    | some t => exact not_isBlank_of_setText? hset
  refine ⟨h, passBudget_val _, ?_, ?_⟩
  · rw [h.version]
    exact hblank _ _ (by decide)
  · rw [h.source]
    exact hblank _ _ (by decide)

/-- The configuration of a document has no error exactly when the document is acceptable, and it has all its settings or
none. -/
theorem ofDocument_cases (raw : Fields) :
    Acceptable raw ∧ (Config.ofDocument raw).error = none ∧ (Config.ofDocument raw).Accepted raw ∨
      ¬Acceptable raw ∧ (Config.ofDocument raw).Refused := by
  rw [← settingsOf_ok_iff, Config.ofDocument]
  cases hread : settingsOf raw with
  | ok settings => exact .inl ⟨⟨settings, rfl⟩, rfl, (writtenIn_of_settingsOf hread).accepted none⟩
  | error e =>
    refine .inr ⟨fun h => ?_, Config.refused_ofError e⟩
    obtain ⟨settings, hsettings⟩ := h
    cases hsettings

section Files

variable {tree : FileTree} {base : List Text} {t : Text}

theorem loadConfig_of_text (hfile : tree.isFile base configPath = true)
    (hread : tree.readText base configPath configPath.text = .ok t) : loadConfig tree base = parseConfig t := by
  rw [loadConfig, if_pos hfile, hread]
  rfl

/-- **A configuration file is accepted as a whole, or not at all.** A file with a text gives a configuration, whatever
document is read from it. The configuration has no error exactly when the document is acceptable. Then each setting is
the one that is written, without the blanks around it, or else the standard one; the pass budget is one for an engine,
and the version and the source have something in them. In all other cases, also where no document is read, the settings
are the standard ones without a directory, and the error has a message. Nothing is made of a text on which the reading
of numbers stops. -/
theorem config_all_or_nothing (hfile : tree.isFile base configPath = true)
    (hread : tree.readText base configPath configPath.text = .ok t) :
    (∀ raw, Toml.read t = .ok raw → ∃ config, loadConfig tree base = .ok config ∧
      (config.error = none ↔ Acceptable raw) ∧ (Acceptable raw → config.Accepted raw) ∧
      (¬Acceptable raw → config.Refused)) ∧
    (Toml.read t = .error .malformed → ∃ config, loadConfig tree base = .ok config ∧ config.Refused) ∧
    ∀ count, Toml.read t = .error (.tooManyDigits count) →
      loadConfig tree base = .error (.toml (.tooManyDigits count)) := by
  have hload := loadConfig_of_text hfile hread
  refine ⟨fun raw hraw => ?_, fun hmalformed => ?_, fun count hcount => ?_⟩
  · refine ⟨.ofDocument raw, by rw [hload, parseConfig, hraw], ?_⟩
    rcases ofDocument_cases raw with ⟨hraw, hnone, haccepted⟩ | ⟨hraw, hrefused⟩
    · exact ⟨iff_of_true hnone hraw, fun _ => haccepted, fun h => absurd hraw h⟩
    · obtain ⟨e, he, -⟩ := hrefused.error
      refine ⟨iff_of_false (fun hnone => ?_) hraw, fun h => absurd h hraw, fun _ => hrefused⟩
      rw [hnone] at he
      cases he
  · have hloaded : loadConfig tree base = .ok (.ofError (.malformed Toml.Fault.malformed.message)) := by
      rw [hload, parseConfig, hmalformed]
    exact ⟨_, hloaded, Config.refused_ofError _⟩
  · rw [hload, parseConfig, hcount]

/-- A directory with a configuration file of a text. -/
def configTree (t : Text) : FileTree := ⟨[(configPath.parts, .file (Text.utf8 t))], false⟩

/-- A configuration with a pass budget and a version between blanks. -/
def tidyConfig : Text := "[templates]\nmax_passes = 3\n[metadata]\nversion = ' 2 '\n".text

/-- A configuration with a pass budget and a version of blanks. -/
def blankConfig : Text := "[templates]\nmax_passes = 3\n[metadata]\nversion = ' '\n".text

/-- The first configuration is accepted with all that it writes, the second one is refused with its pass budget. -/
theorem config_all_or_nothing_version :
    (∃ config, loadConfig (configTree tidyConfig) [] = .ok config ∧ config.error = none ∧
      (config.settings.passes.val : Int) = 3 ∧ config.settings.version = [Point.char '2']) ∧
    ∃ config, loadConfig (configTree blankConfig) [] = .ok config ∧ config.Refused := by
  have hfile : ∀ t, (configTree t).isFile [] configPath = true := fun _ => rfl
  have htidy : (configTree tidyConfig).readText [] configPath configPath.text = .ok tidyConfig :=
    eq_ok_of_toOption (by decide +kernel)
  have hblank : (configTree blankConfig).readText [] configPath configPath.text = .ok blankConfig :=
    eq_ok_of_toOption (by decide +kernel)
  have hwritten : (Toml.read tidyConfig).toOption.any (fun raw => decide (Acceptable raw ∧ setPasses? raw = some 3 ∧
      setText? raw .metadata "version" = some [Point.char '2'])) = true := by decide +kernel
  have hrefused : (Toml.read blankConfig).toOption.any (fun raw => decide ¬Acceptable raw) = true := by decide +kernel
  constructor
  · obtain ⟨raw, hraw, hdecided⟩ := (Option.any_eq_true _ _).1 hwritten
    obtain ⟨hacceptable, hpasses, hversion⟩ := of_decide_eq_true hdecided
    obtain ⟨config, hload, hnone, haccepted, -⟩ :=
      (config_all_or_nothing (hfile _) htidy).1 raw (eq_ok_of_toOption hraw)
    obtain ⟨hsettings, -, -, -⟩ := haccepted hacceptable
    refine ⟨config, hload, hnone.2 hacceptable, ?_, ?_⟩
    · rw [hsettings.passes, hpasses, Option.getD_some]
    · rw [hsettings.version, hversion, Option.getD_some]
  · obtain ⟨raw, hraw, hdecided⟩ := (Option.any_eq_true _ _).1 hrefused
    obtain ⟨config, hload, -, -, hnothing⟩ :=
      (config_all_or_nothing (hfile _) hblank).1 raw (eq_ok_of_toOption hraw)
    exact ⟨config, hload, hnothing (of_decide_eq_true hdecided)⟩

end Files

end Stencil
