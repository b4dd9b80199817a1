import Stencil.Loading.Config
import Stencil.Loading.Customizations
import Stencil.Proofs.Loading.Stops
import Stencil.Proofs.Results
import Stencil.Proofs.Template.Drafts
import Stencil.Proofs.Text.Blanks

/-!
# Where settings and customizations come from

* **Settings** (`Settings.WrittenIn`): each setting is that of the document of the configuration file, or else the
  standard one (`writtenIn_of_loadConfig`).
* **Files** (`CustomizationFiles`): the names in a directory that end in `.md`, each once, in the order of the numbers
  of their characters (`files_of_loadCustomizations`).
* **Customizations** (`WritesCustomization`): each file writes one, under the name of its front matter or under its
  own (`NamedBy`).
-/

namespace Stencil

/-! ## Settings -/

/-- The entries of a table of a document. Where there is no such table there are none. -/
def tableFields (raw : Fields) (table : ConfigTable) : Fields :=
  match raw.get? table.name with
  | some (.record fields) => fields
  | _ => []

/-- The text that a table of a document sets, without the blanks around it. -/
def setText? (raw : Fields) (table : ConfigTable) (name : String) : Option Text :=
  (((tableFields raw table).get? name.text).bind nonBlank?).map Text.strip

/-- The number that a document sets as the pass budget. -/
def setPasses? (raw : Fields) : Option Int :=
  match (tableFields raw .templates).get? "max_passes".text with
  | some (.int n) => some n
  | _ => none

/-- Settings are those of a document, or else the standard ones. -/
structure Settings.WrittenIn (s : Settings) (raw : Fields) : Prop where
  passes : (s.passes.val : Int) = (setPasses? raw).getD defaultPasses.val
  customDir : s.customDir = some (((setText? raw .templates "custom_dir").map Path.ofText).getD standardCustomDir)
  version : s.version = (setText? raw .metadata "version").getD Metadata.defaultVersion
  source : s.source = (setText? raw .metadata "source").getD Metadata.defaultSource

/-- The document of the configuration file. Without one it is empty. -/
def configDocument (tree : FileTree) (base : List Text) : Fields :=
  if tree.isFile base configPath then
    match tree.readText base configPath configPath.text with
    | .ok t => (Toml.read t).toOption.getD []
    | .error _ => []
  else []

/-- A value is a text with something in it, or it is not one. -/
theorem bind_nonBlank?_cases (given : Option Value) :
    (∃ t, given.bind nonBlank? = some t ∧ given = some (.str t) ∧ t.strip ≠ []) ∨
      (given.bind nonBlank? = none ∧ ∀ t, given = some (.str t) → Text.IsBlank t) := by
  cases hread : given.bind nonBlank? with
  | none =>
    refine .inr ⟨rfl, fun t ht => ?_⟩
    by_contra hblank
    simp [ht, nonBlank?, hblank] at hread
  | some t =>
    obtain ⟨v, hv, ht⟩ := Option.bind_eq_some_iff.1 hread
    have htext : v = .str t := nonBlank?_eq_some ht
    refine .inl ⟨t, rfl, hv.trans (congrArg some htext), fun hstrip => ?_⟩
    have hblank : Text.IsBlank t := Text.isBlank_strip.1 (hstrip ▸ rfl)
    simp [htext, nonBlank?, hblank] at ht

section Settings

variable {raw : Fields} {settings : Settings}

theorem tableFields_of_tableOf {table : ConfigTable} {fields : Fields} (h : tableOf raw table = .ok fields) :
    tableFields raw table = fields := by
  unfold tableOf at h
  unfold tableFields
  split at h <;> cases h <;> simp [*]

theorem nonBlank?_of_textOf {fields : Fields} {name : String} {setting : TextSetting} {t : Option Text}
    (h : textOf fields name setting = .ok t) : ((fields.get? name.text).bind nonBlank?).map Text.strip = t := by
  unfold textOf at h
  split at h
  · rename_i hnone
    cases h
    rw [hnone]
    rfl
  · rename_i v hv
    split at h
    · rename_i u hu
      cases h
      rw [hv, Option.bind_some, hu, Option.map_some]
    · cases h

theorem passes_of_passesOf {fields : Fields} {passes : PassBudget} (h : passesOf fields = .ok passes) :
    (passes.val : Int) = (match fields.get? "max_passes".text with
      | some (.int n) => some n
      | _ => none).getD defaultPasses.val := by
  unfold passesOf at h
  split at h
  · rename_i hnone
    cases h
    rw [hnone]
    rfl
  · rename_i n hn
    rw [hn, Option.getD_some]
    unfold passBudget at h
    split at h
    · cases h
      exact Int.toNat_of_nonneg (by omega)
    · cases h
  · cases h

theorem writtenIn_of_settingsOf (h : settingsOf raw = .ok settings) : settings.WrittenIn raw := by
  obtain ⟨templates, htemplates, h⟩ := bind_eq_ok_iff.1 h
  obtain ⟨metadata, hmetadata, h⟩ := bind_eq_ok_iff.1 h
  obtain ⟨passes, hpasses, h⟩ := bind_eq_ok_iff.1 h
  obtain ⟨customDir, hcustomDir, h⟩ := bind_eq_ok_iff.1 h
  obtain ⟨version, hversion, h⟩ := bind_eq_ok_iff.1 h
  obtain ⟨source, hsource, h⟩ := bind_eq_ok_iff.1 h
  obtain rfl := Except.ok.inj h
  constructor
  · rw [setPasses?, tableFields_of_tableOf htemplates]
    exact passes_of_passesOf hpasses
  · rw [setText?, tableFields_of_tableOf htemplates, nonBlank?_of_textOf hcustomDir]
  · rw [setText?, tableFields_of_tableOf hmetadata, nonBlank?_of_textOf hversion]
  · rw [setText?, tableFields_of_tableOf hmetadata, nonBlank?_of_textOf hsource]

theorem writtenIn_standard : Settings.standard.WrittenIn [] := ⟨rfl, rfl, rfl, rfl⟩

/-- The settings of a project without errors are those of its configuration file, or else the standard ones. -/
theorem writtenIn_of_loadConfig {tree : FileTree} {base : List Text}
    (h : loadConfig tree base = .ok ⟨settings, none⟩) : settings.WrittenIn (configDocument tree base) := by
  unfold loadConfig at h
  unfold configDocument
  split at h
  · rename_i hfile
    obtain ⟨t, ht, hparse⟩ := bind_eq_ok_iff.1 h
    rw [if_pos hfile]
    cases hread : tree.readText base configPath configPath.text with
    | error e =>
      rw [hread] at ht
      cases ht
    | ok u =>
      rw [hread] at ht
      obtain rfl := Except.ok.inj ht
      unfold parseConfig at hparse
      cases htoml : Toml.read u with
      | ok raw =>
        rw [htoml] at hparse
        simp only [Config.ofDocument, Except.ok.injEq] at hparse
        split at hparse
        · rename_i found hfound
          cases hparse
          simp only [htoml, Except.toOption, Option.getD_some]
          exact writtenIn_of_settingsOf hfound
        · cases hparse
      | error fault =>
        rw [htoml] at hparse
        cases fault <;> cases hparse
  · rename_i hfile
    obtain rfl := congrArg Config.settings (Except.ok.inj h)
    rw [if_neg hfile]
    exact writtenIn_standard

end Settings

/-! ## Files -/

/-- The order of texts by the numbers of their characters. -/
def Before : Text → Text → Prop := List.Lex fun c d => c.toNat < d.toNat

/-- The customization files of a directory: the names in it that end in `.md`, each once, in the order of the numbers of
their characters. Where there is no directory there are none. -/
structure CustomizationFiles (tree : FileTree) (base : List Text) (directory shownBase : Path) (names : List Text) :
    Prop where
  mem_iff : ∀ name, name ∈ names ↔ tree.isDirectory base directory (shownBase.join directory).text = .ok true ∧
    name ∈ tree.listing base directory ∧ Text.endsWith ".md".text name = true
  sorted : names.Pairwise Before

section Files

/-- A name comes first if it is the same or before. -/
theorem comesFirst_iff : ∀ t u : Text, comesFirst t u = true ↔ t = u ∨ Before t u
  | [], [] => by simp [comesFirst]
  | [], d :: ds => by
    simp only [comesFirst, true_iff]
    exact .inr .nil
  | c :: cs, [] => by
    simp only [comesFirst, Bool.false_eq_true, false_iff, not_or]
    exact ⟨nofun, nofun⟩
  | c :: cs, d :: ds => by
    have ih := comesFirst_iff cs ds
    simp only [comesFirst, Bool.or_eq_true, Bool.and_eq_true, decide_eq_true_eq, ih, List.cons.injEq]
    constructor
    · rintro (hlt | ⟨rfl, rfl | hrest⟩)
      · exact .inr (.rel hlt)
      · exact .inl ⟨rfl, rfl⟩
      · exact .inr (.cons hrest)
    · rintro (⟨rfl, rfl⟩ | hlex)
      · exact .inr ⟨rfl, .inl rfl⟩
      · cases hlex with
        | rel hlt => exact .inl hlt
        | cons hrest => exact .inr ⟨rfl, .inr hrest⟩

theorem comesFirst_trans : ∀ t u v : Text, comesFirst t u = true → comesFirst u v = true → comesFirst t v = true
  | [], _, _, _, _ => by rw [comesFirst]
  | _ :: _, [], _, h, _ => by cases h
  | _ :: _, _ :: _, [], _, h => by cases h
  | b :: bs, c :: cs, d :: ds, htu, huv => by
    simp only [comesFirst, Bool.or_eq_true, Bool.and_eq_true, decide_eq_true_eq] at htu huv ⊢
    rcases htu with hbc | ⟨rfl, hbs⟩
    · rcases huv with hcd | ⟨rfl, -⟩
      · exact .inl (Nat.lt_trans hbc hcd)
      · exact .inl hbc
    · rcases huv with hcd | ⟨rfl, hcs⟩
      · exact .inl hcd
      · exact .inr ⟨rfl, comesFirst_trans bs cs ds hbs hcs⟩

theorem comesFirst_total : ∀ t u : Text, (comesFirst t u || comesFirst u t) = true
  | [], _ => by simp [comesFirst]
  | _ :: _, [] => by simp [comesFirst]
  | c :: cs, d :: ds => by
    have ih := comesFirst_total cs ds
    simp only [comesFirst, Bool.or_eq_true, Bool.and_eq_true, decide_eq_true_eq] at ih ⊢
    rcases Nat.lt_trichotomy c.toNat d.toNat with hlt | heq | hlt
    · exact .inl (.inl hlt)
    · obtain rfl := Point.toNat_inj.1 heq
      exact ih.imp (fun h => .inr ⟨rfl, h⟩) fun h => .inr ⟨rfl, h⟩
    · exact .inr (.inl hlt)

theorem nodup_eraseDups (ts : List Text) : ts.eraseDups.Nodup := by
  -- By the length, since what is left after the first text is a part of the rest and not the rest itself.
  induction hn : ts.length using Nat.strongRecOn generalizing ts with
  | ind n ih =>
    subst hn
    cases ts with
    | nil => exact List.nodup_nil
    | cons t ts =>
      have hlt : (ts.filter fun u => !u == t).length < (t :: ts).length := Nat.lt_succ_of_le (List.length_filter_le _ _)
      rw [List.eraseDups_cons, List.nodup_cons]
      refine ⟨fun hmem => ?_, ih _ hlt _ rfl⟩
      have hne := (List.mem_filter.1 (List.mem_eraseDups.1 hmem)).2
      simp at hne

theorem nodup_listing (tree : FileTree) (base : List Text) (p : Path) : (tree.listing base p).Nodup := by
  unfold FileTree.listing
  split
  · exact nodup_eraseDups _
  · exact List.nodup_nil

theorem customizationFiles_sorted (tree : FileTree) (base : List Text) (directory : Path) :
    (customizationFiles (tree.listing base directory)).Pairwise Before := by
  have hordered := List.pairwise_mergeSort comesFirst_trans comesFirst_total
    ((tree.listing base directory).filter (Text.endsWith ".md".text))
  have hnodup : (customizationFiles (tree.listing base directory)).Nodup :=
    (List.mergeSort_perm _ _).nodup_iff.2 ((nodup_listing tree base directory).filter _)
  exact (hordered.and hnodup).imp fun hboth => ((comesFirst_iff _ _).1 hboth.1).resolve_left hboth.2

variable {tree : FileTree} {base : List Text} {directory shownBase : Path} {ds : List CustomizationDraft}

/-- The drafts of a directory are read from its customization files. -/
theorem files_of_loadCustomizations (h : loadCustomizations tree base directory shownBase = .ok ds) :
    ∃ names, CustomizationFiles tree base directory shownBase names ∧
      List.Forall₂ (fun name d => readCustomization tree base (fileIn directory name)
        (shownBase.join (fileIn directory name)).text = .ok d) names ds := by
  cases hfound : tree.isDirectory base directory (shownBase.join directory).text with
  | error why =>
    rw [loadCustomizations_of_error hfound] at h
    cases h
  | ok found =>
    cases found with
    | false =>
      rw [loadCustomizations_of_none hfound] at h
      obtain rfl := Except.ok.inj h
      refine ⟨[], ⟨fun name => ?_, .nil⟩, .nil⟩
      simp [hfound]
    | true =>
      rw [loadCustomizations_of_found hfound] at h
      refine ⟨_, ⟨fun name => ?_, customizationFiles_sorted tree base directory⟩, mapM_eq_ok_iff.1 h⟩
      rw [customizationFiles, List.mem_mergeSort, List.mem_filter]
      simp [hfound]

end Files

/-! ## Customizations -/

/-- The name of a customization: a text of its front matter with something in it, without the blanks around it, or else
the name of its file without the suffix, if that leaves anything. -/
inductive NamedBy (header : Fields) (file : Text) : Text → Prop
  | header {t name : Text} : header.get? "name".text = some (.str t) → t.Trimmed name → name ≠ [] →
    NamedBy header file name
  | stem {stem : Text} : (∀ t, header.get? "name".text = some (.str t) → Text.IsBlank t) →
    file = stem ++ ".md".text → stem ≠ [] → NamedBy header file stem
  | suffix : (∀ t, header.get? "name".text = some (.str t) → Text.IsBlank t) → file = ".md".text →
    NamedBy header file ".md".text

/-- The overrides of a customization: the entries of a mapping in its front matter, or else none. -/
inductive OverriddenBy (header : Fields) : Fields → Prop
  | mapping {v : Value} {overrides : Fields} : header.get? "variables".text = some v → v.opened = .record overrides →
    OverriddenBy header overrides
  | nothing : (∀ v overrides, header.get? "variables".text = some v → v.opened ≠ .record overrides) →
    OverriddenBy header []

/-- A customization is the one that a file of a directory writes. -/
def WritesCustomization (tree : FileTree) (base : List Text) (directory shownBase : Path) (file : Text)
    (c : Customization) : Prop :=
  ∃ t header, tree.readText base (fileIn directory file) (shownBase.join (fileIn directory file)).text = .ok t ∧
    splitFrontMatter Yaml.Document.ofText t = .ok (header, c.body) ∧ NamedBy header file c.name ∧
    OverriddenBy header c.overrides

section Customizations

variable {header : Fields} {directory : Path} {file : Text}

theorem name_fileIn (directory : Path) (file : Text) : (fileIn directory file).name = file := by
  show ((directory.parts ++ [file]).getLast?).getD [] = file
  rw [List.getLast?_append_of_ne_nil _ (List.cons_ne_nil file [])]
  rfl

/-- A file with the suffix has the name before it as its stem, if there is any. -/
theorem stem_of_suffix {stem : Text} (hstem : stem ≠ []) {p : Path} (hp : p.name = stem ++ ".md".text) :
    p.stem = stem := by
  have hpos : 0 < stem.length := List.length_pos_iff.2 hstem
  have hstart : Path.suffixStart? (stem ++ ".md".text) = some stem.length := by
    simp [Path.suffixStart?, String.text, hpos]
  rw [Path.stem, hp, hstart]
  exact List.take_left

theorem namedBy_customizationName (hfile : Text.endsWith ".md".text file = true) :
    NamedBy header file (customizationName header (fileIn directory file)) := by
  unfold customizationName
  rcases bind_nonBlank?_cases (header.get? "name".text) with ⟨t, ht, hgiven, hstrip⟩ | ⟨hnone, hblank⟩
  · rw [ht]
    exact .header hgiven t.trimmed_strip hstrip
  · rw [hnone]
    obtain ⟨stem, hstem⟩ := List.isSuffixOf_iff_suffix.1 hfile
    by_cases hempty : stem = []
    · obtain rfl : file = ".md".text := by rw [← hstem, hempty, List.nil_append]
      have hstart : Path.suffixStart? ".md".text = none := by decide
      have hfile : (fileIn directory ".md".text).stem = ".md".text := by
        rw [Path.stem, name_fileIn, hstart]
      rw [hfile]
      exact .suffix hblank rfl
    · rw [stem_of_suffix hempty ((name_fileIn directory file).trans hstem.symm)]
      exact .stem hblank hstem.symm hempty

theorem overriddenBy_customizationOverrides : OverriddenBy header (customizationOverrides header) := by
  unfold customizationOverrides
  split
  · rename_i overrides hoverrides
    obtain ⟨v, hv, hopened⟩ := Option.map_eq_some_iff.1 hoverrides
    exact .mapping hv hopened
  · rename_i hnone
    refine .nothing fun v overrides hv hopened => hnone overrides ?_
    rw [hv, Option.map_some, hopened]

theorem writesCustomization_of_read {tree : FileTree} {base : List Text} {shownBase : Path} {d : CustomizationDraft}
    {c : Customization} (hfile : Text.endsWith ".md".text file = true)
    (hread : readCustomization tree base (fileIn directory file) (shownBase.join (fileIn directory file)).text = .ok d)
    (hcheck : Registry.checkCustomization d = .ok c) : WritesCustomization tree base directory shownBase file c := by
  obtain ⟨t, ht, hparse⟩ := bind_eq_ok_iff.1 hread
  obtain ⟨⟨header, body⟩, hsplit, hdraft⟩ := bind_eq_ok_iff.1 hparse
  obtain rfl := Except.ok.inj hdraft
  have hvalid := mapError_eq_ok_iff.1 hcheck
  unfold CustomizationDraft.validate at hvalid
  split at hvalid
  · rename_i name filled hname hbody
    obtain rfl := Value.str.inj (nonBlank?_eq_some hname)
    obtain rfl := Value.str.inj (nonBlank?_eq_some hbody)
    cases hvalid
    exact ⟨t, header, mapError_eq_ok_iff.1 ht, mapError_eq_ok_iff.1 hsplit, namedBy_customizationName hfile,
      overriddenBy_customizationOverrides⟩
  · cases hvalid

end Customizations

end Stencil
