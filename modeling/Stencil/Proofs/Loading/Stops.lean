import Stencil.Loading.Config
import Stencil.Loading.Customizations
import Stencil.Loading.Variables
import Stencil.Proofs.Results

/-!
# Errors of loading that nothing reports

A program reports most errors of files and ends by itself. The others stop it.

* **Configuration** (`ConfigStops`): a file that is no text, or that writes an integer of too many digits.
* **Customizations** (`CustomizationStops`): the first file that is not read in order is no text, or a value of its front
  matter does not exist.
* **Variables** (`VariablesStop`): a text in YAML that the reader refuses in a way of its own.
-/

namespace Stencil

/-! ## Files -/

namespace FileTree

variable {tree : FileTree} {base : List Text} {p : Path} {shown : Text}

theorem isFile_iff : tree.isFile base p = true ↔ ∃ bytes, tree.read base p = .ok bytes := by
  unfold isFile read
  cases tree.find base p with
  | error e =>
    constructor
    · intro h
      cases h
    · rintro ⟨bytes, h⟩
      cases h
  | ok place =>
    simp only [Except.toOption, Option.bind_some, bind, Except.bind]
    cases tree.at? place with
    | none => simp [throw, throwThe, MonadExceptOf.throw]
    | some entry =>
      cases entry with
      | file bytes => simp [pure, Except.pure]
      | directory => simp [throw, throwThe, MonadExceptOf.throw]

/-- The text of a file that is there is known unless its bytes are no text. -/
theorem readText_of_isFile (hencoded : pathFault? shown = none) (hnull : p.hasNull = false)
    (hlength : byteCount shown ≤ pathLimit)
    (hfile : tree.isFile base p = true) :
    (∃ t, tree.readText base p shown = .ok t) ∨ tree.readText base p shown = .error .undecodable := by
  obtain ⟨bytes, hread⟩ := isFile_iff.1 hfile
  unfold readText
  rw [hencoded, if_neg (by simp [hnull]), if_neg (Nat.not_lt.2 hlength), hread]
  cases hdecoded : Text.ofUtf8? bytes with
  | some t => exact .inl ⟨Text.normaliseNewlines t, by simp [bind, Except.bind, mapError_ok, hdecoded]; rfl⟩
  | none => exact .inr (by simp [bind, Except.bind, mapError_ok, hdecoded]; rfl)

end FileTree

/-! ## Configuration -/

/-- What stops the reading of a configuration file. -/
inductive ConfigStops (tree : FileTree) (base : List Text) : LoadError → Prop
  /-- The file is no text. -/
  | undecodable : tree.isFile base configPath = true →
    tree.readText base configPath configPath.text = .error .undecodable → ConfigStops tree base (.read .undecodable)
  /-- The file writes an integer of too many digits. -/
  | number {t : Text} {count : Nat} : tree.isFile base configPath = true →
    tree.readText base configPath configPath.text = .ok t → Toml.read t = .error (.tooManyDigits count) →
    ConfigStops tree base (.toml (.tooManyDigits count))

section Config

variable {tree : FileTree} {base : List Text} {e : LoadError}

theorem parseConfig_eq_error_iff {t : Text} : parseConfig t = .error e ↔
    ∃ count, Toml.read t = .error (.tooManyDigits count) ∧ e = .toml (.tooManyDigits count) := by
  unfold parseConfig
  cases hread : Toml.read t with
  | ok raw => simp
  | error fault => cases fault <;> simp [eq_comm]

theorem loadConfig_eq_error_iff : loadConfig tree base = .error e ↔ ConfigStops tree base e := by
  unfold loadConfig
  constructor
  · intro h
    split at h
    · rename_i hfile
      rcases bind_eq_error_iff.1 h with hread | ⟨t, ht, hparsed⟩
      · obtain ⟨why, hwhy, rfl⟩ := mapError_eq_error_iff.1 hread
        have hlength : FileTree.byteCount configPath.text ≤ FileTree.pathLimit := by decide
        rcases FileTree.readText_of_isFile (by decide) (by decide) hlength hfile with ⟨t, ht⟩ | hundecodable
        · rw [ht] at hwhy
          cases hwhy
        · rw [hundecodable] at hwhy
          cases hwhy
          exact .undecodable hfile hundecodable
      · obtain ⟨count, hcount, rfl⟩ := parseConfig_eq_error_iff.1 hparsed
        exact .number hfile (mapError_eq_ok_iff.1 ht) hcount
    · cases h
  · intro hstops
    cases hstops with
    | undecodable hfile hread =>
      rw [if_pos hfile, hread]
      rfl
    | number hfile hread hcount =>
      rw [if_pos hfile, hread]
      exact parseConfig_eq_error_iff.2 ⟨_, hcount, rfl⟩

end Config

/-! ## Customizations -/

/-- The error is about finding a file or a directory. -/
def LoadError.IsFileError (e : LoadError) : Prop := ∃ found shown, e = .read (.file found shown)

/-- What stops the reading of a customization file. -/
inductive CustomizationStops (tree : FileTree) (base : List Text) (p : Path) (shown : Text) : LoadError → Prop
  /-- The file is no text, or its path is no path. -/
  | unread {e : ReadError} : tree.readText base p shown = .error e →
      (e = .undecodable ∨ e = .nullInPath ∨ ∃ f, e = .unencodable f) →
    CustomizationStops tree base p shown (.read e)
  /-- A value in the front matter does not exist. -/
  | frontMatter {t header body : Text} {f : Yaml.Fault} : tree.readText base p shown = .ok t →
    frontMatterParts? t = some (header, body) → Yaml.Document.ofText header = .error f → f ≠ .malformed →
    CustomizationStops tree base p shown (.yaml f)

section Customizations

variable {tree : FileTree} {base : List Text} {p : Path} {shown : Text} {e : LoadError}

theorem splitFrontMatter_eq_error_iff {t : Text} {f : Yaml.Fault} :
    splitFrontMatter Yaml.Document.ofText t = .error f ↔
      ∃ header body, frontMatterParts? t = some (header, body) ∧ Yaml.Document.ofText header = .error f ∧
        f ≠ .malformed := by
  unfold splitFrontMatter
  cases hparts : frontMatterParts? t with
  | none => simp
  | some parts =>
    obtain ⟨header, body⟩ := parts
    simp only [Option.some.injEq, Prod.mk.injEq]
    cases hread : Yaml.Document.ofText header with
    | error fault =>
      constructor
      · intro h
        refine ⟨header, body, ⟨rfl, rfl⟩, ?_⟩
        split at h <;> simp_all
      · rintro ⟨header', body', ⟨rfl, rfl⟩, hfault, hne⟩
        rw [hread] at hfault
        cases hfault
        cases f <;> simp_all
    | ok document =>
      constructor
      · intro h
        simp only at h
        split at h
        · cases h
        · split at h <;> cases h
      · rintro ⟨header', body', ⟨rfl, rfl⟩, hfault, -⟩
        rw [hread] at hfault
        cases hfault

/-- A customization file is read, or its text is not known, or its front matter has a value that does not exist. -/
theorem readCustomization_eq_error_iff : readCustomization tree base p shown = .error e ↔
    (∃ why, tree.readText base p shown = .error why ∧ e = .read why) ∨
    ∃ t f, tree.readText base p shown = .ok t ∧ splitFrontMatter Yaml.Document.ofText t = .error f ∧ e = .yaml f := by
  have hparse : ∀ t, parseCustomization p t = .error e ↔
      ∃ f, splitFrontMatter Yaml.Document.ofText t = .error f ∧ e = .yaml f := by
    intro t
    rw [parseCustomization, bind_eq_error_iff, mapError_eq_error_iff]
    constructor
    · rintro (⟨f, hf, he⟩ | ⟨_, _, hnever⟩)
      · exact ⟨f, hf, he.symm⟩
      · cases hnever
    · rintro ⟨f, hf, he⟩
      exact .inl ⟨f, hf, he.symm⟩
  rw [readCustomization, bind_eq_error_iff, mapError_eq_error_iff]
  refine or_congr (exists_congr fun why => and_congr_right fun _ => eq_comm) ⟨?_, ?_⟩
  · rintro ⟨t, ht, herror⟩
    obtain ⟨f, hf, he⟩ := (hparse t).1 herror
    exact ⟨t, f, mapError_eq_ok_iff.1 ht, hf, he⟩
  · rintro ⟨t, f, ht, hf, he⟩
    exact ⟨t, mapError_eq_ok_iff.2 ht, (hparse t).2 ⟨f, hf, he⟩⟩

theorem readCustomization_stops_iff : readCustomization tree base p shown = .error e ∧ ¬e.IsFileError ↔
    CustomizationStops tree base p shown e := by
  rw [readCustomization_eq_error_iff]
  constructor
  · rintro ⟨⟨why, hread, rfl⟩ | ⟨t, f, hread, hsplit, rfl⟩, hfile⟩
    · refine .unread hread ?_
      cases why with
      | file found shown' => exact absurd ⟨found, shown', rfl⟩ hfile
      | undecodable => exact .inl rfl
      | nullInPath => exact .inr (.inl rfl)
      | unencodable f => exact .inr (.inr ⟨f, rfl⟩)
    · obtain ⟨header, body, hparts, hfault, hne⟩ := splitFrontMatter_eq_error_iff.1 hsplit
      exact .frontMatter hread hparts hfault hne
  · intro hstops
    cases hstops with
    | unread hread hwhy =>
      refine ⟨.inl ⟨_, hread, rfl⟩, ?_⟩
      rintro ⟨found, shown', heq⟩
      cases heq
      rcases hwhy with h | h | ⟨f, h⟩ <;> cases h
    | frontMatter hread hparts hfault hne =>
      refine ⟨.inr ⟨_, _, hread, splitFrontMatter_eq_error_iff.2 ⟨_, _, hparts, hfault, hne⟩, rfl⟩, ?_⟩
      rintro ⟨found, shown', heq⟩
      cases heq

/-- The path of a file in a directory. -/
def fileIn (directory : Path) (name : Text) : Path := directory.join ⟨[], [name]⟩

/-- The first customization file of a directory that is not read stops the program. -/
structure FirstStops (tree : FileTree) (base : List Text) (directory shownBase : Path) (e : LoadError) : Prop where
  found : tree.isDirectory base directory (shownBase.join directory).text = .ok true
  first : ∃ before name after, customizationFiles (tree.listing base directory) = before ++ name :: after ∧
    (∀ other ∈ before, ∃ d, readCustomization tree base (fileIn directory other)
      (shownBase.join (fileIn directory other)).text = .ok d) ∧
    CustomizationStops tree base (fileIn directory name) (shownBase.join (fileIn directory name)).text e

/-- The customizations of a directory are those of its files, in order. -/
theorem loadCustomizations_of_found {directory shownBase : Path}
    (h : tree.isDirectory base directory (shownBase.join directory).text = .ok true) :
    loadCustomizations tree base directory shownBase = (customizationFiles (tree.listing base directory)).mapM
      fun name => readCustomization tree base (fileIn directory name) (shownBase.join (fileIn directory name)).text := by
  unfold loadCustomizations
  simp only [h]
  rfl

/-- Without a directory there are no customizations. -/
theorem loadCustomizations_of_none {directory shownBase : Path}
    (h : tree.isDirectory base directory (shownBase.join directory).text = .ok false) :
    loadCustomizations tree base directory shownBase = .ok [] := by
  unfold loadCustomizations
  simp only [h]
  rfl

theorem loadCustomizations_of_error {directory shownBase : Path} {found : FileError}
    (h : tree.isDirectory base directory (shownBase.join directory).text = .error found) :
    loadCustomizations tree base directory shownBase = .error (.read (.file found (shownBase.join directory).text)) := by
  unfold loadCustomizations
  simp only [h]
  rfl

theorem loadCustomizations_stops_iff {directory shownBase : Path} :
    loadCustomizations tree base directory shownBase = .error e ∧ ¬e.IsFileError ↔
      FirstStops tree base directory shownBase e := by
  constructor
  · rintro ⟨herror, hfile⟩
    cases hfound : tree.isDirectory base directory (shownBase.join directory).text with
    | error found =>
      rw [loadCustomizations_of_error hfound] at herror
      cases herror
      exact absurd ⟨found, _, rfl⟩ hfile
    | ok found =>
      cases found with
      | false =>
        rw [loadCustomizations_of_none hfound] at herror
        cases herror
      | true =>
        rw [loadCustomizations_of_found hfound] at herror
        obtain ⟨before, name, after, hsplit, hbefore, hname⟩ := (mapM_eq_error_iff _).1 herror
        exact ⟨hfound, before, name, after, hsplit, hbefore, readCustomization_stops_iff.1 ⟨hname, hfile⟩⟩
  · rintro ⟨hfound, before, name, after, hsplit, hbefore, hstops⟩
    obtain ⟨hname, hfile⟩ := readCustomization_stops_iff.2 hstops
    rw [loadCustomizations_of_found hfound]
    exact ⟨(mapM_eq_error_iff _).2 ⟨before, name, after, hsplit, hbefore, hname⟩, hfile⟩

end Customizations

/-! ## Variables -/

/-- What stops the program at a variable file. -/
inductive VariablesStop (tree : FileTree) (base : List Text) (p : Path) : LoadError → Prop
  /-- The file is in YAML, and the reader of it fails in a way that nothing tells of. -/
  | yaml {t : Text} {f : Yaml.Fault} : tree.readText base p p.text = .ok t → p.suffix ≠ jsonSuffix →
    Yaml.read t = .error f → f.isReported = false → VariablesStop tree base p (.yaml f)

section Variables

variable {tree : FileTree} {base : List Text} {p : Path} {e : LoadError}

/-- Only the reader of YAML has errors that are not reported. -/
theorem parseVariables_unreported {t : Text} (h : parseVariables p t = .error e) (hreported : e.isReported = false) :
    ∃ f, p.suffix ≠ jsonSuffix ∧ Yaml.read t = .error f ∧ e = .yaml f := by
  unfold parseVariables at h
  split at h
  · cases hread : Json.read digitLimit t <;> rw [hread] at h <;> cases h
    cases hreported
  · rename_i hsuffix
    cases hread : Yaml.read t <;> rw [hread] at h <;> cases h
    exact ⟨_, hsuffix, rfl, rfl⟩

/-- An error of a variable file is not reported exactly if the reader of YAML refuses it in a way of its own. -/
theorem loadVariables_stops_iff : loadVariables tree base p = .error e ∧ e.isReported = false ↔
    VariablesStop tree base p e := by
  constructor
  · rintro ⟨herror, hreported⟩
    rcases bind_eq_error_iff.1 herror with hread | ⟨t, ht, hrest⟩
    · obtain ⟨why, -, rfl⟩ := mapError_eq_error_iff.1 hread
      cases hreported
    · rcases bind_eq_error_iff.1 hrest with hparsed | ⟨v, -, hshape⟩
      · obtain ⟨f, hsuffix, hfault, rfl⟩ := parseVariables_unreported hparsed hreported
        exact .yaml (mapError_eq_ok_iff.1 ht) hsuffix hfault hreported
      · split at hshape <;> cases hshape
        cases hreported
  · intro hstops
    cases hstops with
    | @yaml t f ht hsuffix hfault hreported =>
      have hparsed : parseVariables p t = .error (.yaml f) := by
        rw [parseVariables, if_neg hsuffix, hfault, mapError_error]
      exact ⟨bind_eq_error_iff.2 (.inr ⟨t, mapError_eq_ok_iff.2 ht, bind_eq_error_iff.2 (.inl hparsed)⟩), hreported⟩

end Variables

end Stencil
