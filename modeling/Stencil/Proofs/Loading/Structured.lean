import Stencil.Loading.Variables
import Stencil.Proofs.Json.Documents
import Stencil.Proofs.Text.Utf8

/-!
# Printed structures

* What a portable record shows, written to a file in JSON, is read back as the variables of the record, with tuples as
  lists (`loadVariables_of_reads`). A file keeps the text, which has no halves and no carriage returns.
* A container that JSON has no form for shows nothing of what it holds. Together: `printed_structures`.
-/

namespace Stencil

/-- A text without a carriage return keeps its line ends. -/
theorem Text.normaliseNewlines_of_not_mem {t : Text} (h : Point.char '\r' ∉ t) : normaliseNewlines t = t := by
  induction t with
  | nil => rfl
  | cons c cs ih =>
    rw [List.mem_cons, not_or] at h
    rw [normaliseNewlines, ih h.2, if_neg (Ne.symm h.1)]
    exact fun _ heq _ => h.1 heq.symm

namespace FileTree

/-- A path opens a file of these bytes. -/
structure Opens (tree : FileTree) (base : List Text) (p : Path) (bytes : List UInt8) : Prop where
  encoded : pathFault? p.text = none
  noNull : p.hasNull = false
  fits : byteCount p.text ≤ pathLimit
  read : tree.read base p = .ok bytes

variable {tree : FileTree} {base : List Text} {p : Path} {t : Text}

/-- A text in UTF-8 is read as it is, unless carriage returns end its lines. -/
theorem Opens.readText (h : tree.Opens base p (Text.utf8 t)) (ht : t.Kept) : tree.readText base p p.text = .ok t := by
  have hreturn : Point.char '\r' ∉ t := fun hmem => (ht _ hmem).1 rfl
  have hdecoded := Text.ofUtf8?_utf8 fun p hp => (ht p hp).2
  rw [FileTree.readText, h.encoded, if_neg (by simp [h.noNull]), if_neg (Nat.not_lt.2 h.fits), h.read]
  simp only [mapError_ok, hdecoded, Text.normaliseNewlines_of_not_mem hreturn, bind, Except.bind]
  rfl

end FileTree

section Files

variable {tree : FileTree} {base : List Text} {p : Path} {t : Text} {fields : Fields}

/-- A file in JSON with a text that reads as a record gives the entries of the record. -/
theorem loadVariables_of_reads (h : Json.Reads t (.record fields)) (hp : p.suffix = jsonSuffix)
    (hfile : tree.Opens base p (Text.utf8 t)) : loadVariables tree base p = .ok fields := by
  have hparse : parseVariables p t = .ok (.record fields) := by
    rw [parseVariables, if_pos hp, h.read]
    rfl
  rw [loadVariables, hfile.readText h.kept, mapError_ok]
  simp only [bind, Except.bind, hparse]
  rfl

/-- What a portable record shows gives the record back. -/
theorem loadVariables_printed (h : (Value.record fields).Portable) : ∃ t, (Value.record fields).printed = .ok t ∧
    ∀ tree base p, p.suffix = jsonSuffix → FileTree.Opens tree base p (Text.utf8 t) →
      loadVariables tree base p = .ok (Value.fieldsAsLists fields) := by
  obtain ⟨t, ht, hreads⟩ := Json.reads_of_portable h 0
  rw [Value.asLists] at hreads
  refine ⟨t, ?_, fun tree base p hp hfile => loadVariables_of_reads hreads hp hfile⟩
  rw [Value.printed_eq rfl, Value.structured?, ht]
  rfl

end Files

/-- **Printed structures are read back, or refused as a whole.** The text that a record of portable values shows, in
a file in JSON, gives the record again, its entries in order and its tuples as lists. A list, a tuple or a record that
holds a value without a form in JSON, at any depth, shows `complexText`. -/
theorem printed_structures :
    (∀ fields, (Value.record fields).Portable → ∃ t, (Value.record fields).printed = .ok t ∧
      ∀ tree base p, p.suffix = jsonSuffix → FileTree.Opens tree base p (Text.utf8 t) →
        loadVariables tree base p = .ok (Value.fieldsAsLists fields)) ∧
    ∀ v w : Value, v.isContainer = true → Relation.ReflTransGen Value.Holds v w → w.Refused →
      v.printed = .ok Value.complexText :=
  ⟨fun _ h => loadVariables_printed h, fun _ _ hv hw h => Value.printed_of_refused hv hw h⟩

/-- A team: its members, and a note that is not there. -/
def teamEntries : List (Text × Value) :=
  [("team".text, .tuple [.str "Ada \"A\"".text, .int (-12)]), ("note".text, .null)]

/-- What the team shows. -/
def teamText : Text :=
  "\x7b\n  \"team\": [\n    \"Ada \\\"A\\\"\",\n    -12\n  ],\n  \"note\": null\n\x7d".text

/-- The path of the file of the team. -/
def teamPath : Path := ⟨[], ["team.json".text]⟩

/-- A directory with the file of the team. -/
def teamTree : FileTree := ⟨[(teamPath.parts, .file (Text.utf8 teamText))], false⟩

/-- The team is read back, and a list that holds a list that holds itself is refused. -/
theorem printed_structures_team :
    (Value.record (Fields.named teamEntries)).Portable ∧
    (Value.record (Fields.named teamEntries)).printed = .ok teamText ∧
    teamPath.suffix = jsonSuffix ∧ teamTree.Opens [] teamPath (Text.utf8 teamText) ∧
    loadVariables teamTree [] teamPath = .ok (Fields.named
      [("team".text, .list [.str "Ada \"A\"".text, .int (-12)]), ("note".text, .null)]) ∧
    (Value.list [.null, .cycle]).isContainer = true ∧ Value.Holds (.list [.null, .cycle]) .cycle ∧
    Value.cycle.Refused ∧ (Value.list [.null, .cycle]).printed = .ok Value.complexText := by
  have hportable : (Value.record (Fields.named teamEntries)).Portable := by
    refine .record (by decide) (by decide) ?_
    simp only [teamEntries, List.forall_mem_cons]
    refine ⟨.tuple ?_, .null, List.forall_mem_nil _⟩
    simp only [List.forall_mem_cons]
    exact ⟨.str (by decide), .int (by decide), List.forall_mem_nil _⟩
  have hprinted : (Value.record (Fields.named teamEntries)).printed = .ok teamText :=
    eq_ok_of_toOption (by decide +kernel)
  have hopens : teamTree.Opens [] teamPath (Text.utf8 teamText) := ⟨by decide, by decide, by decide, rfl⟩
  have hsuffix : teamPath.suffix = jsonSuffix := by decide
  have hholds : Value.Holds (.list [.null, .cycle]) .cycle := .element rfl (by simp)
  have hcycle : Value.Holds .cycle .cycle := .element rfl (List.mem_singleton.2 rfl)
  have hrefused : Value.cycle.Refused := .cyclic (.single hcycle)
  obtain ⟨hread, hrefuse⟩ := printed_structures
  obtain ⟨t, ht, hload⟩ := hread _ hportable
  cases hprinted.symm.trans ht
  exact ⟨hportable, hprinted, hsuffix, hopens, hload _ _ _ hsuffix hopens, rfl, hholds, hrefused,
    hrefuse _ _ rfl (.single hholds) hrefused⟩

end Stencil
