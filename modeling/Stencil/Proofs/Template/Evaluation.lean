import Stencil.Proofs.Directive.Meaning
import Stencil.Proofs.Directive.OnTrees
import Stencil.Proofs.Slots.Weaving

/-!
# A document is the evaluation of its template

* **Printable values** (`Value.Printable`): the value and all its parts have a printed text.
* **Weaving means** (`Slots.weave_print`): where no directives are left, a written tree is woven into its meaning.
* **Rendering evaluates** (`document_eval`): the document of a well-formed body is what its tree evaluates to, with any
  budget of at least as many passes as conditionals nest without crossing a loop.
-/

namespace Stencil

open Markup
open Text (BraceFree)

/-! ## Printable values -/

namespace Value

/-- All parts of a value have a printed text, and so have the numbers of the elements of its sequences. -/
def Printable (v : Value) : Prop :=
  ∀ w, Part w v → (∃ t, w.printed = .ok t) ∧ ∀ items, w.elements? = some items → items.length ≤ digitBound

/-- A value is printable if it prints and its elements and fields are printable. -/
theorem printable_of_parts {v : Value} (ht : ∃ t, v.printed = .ok t)
    (he : ∀ items, v.elements? = some items → items.length ≤ digitBound ∧ ∀ x ∈ items, x.Printable)
    (hf : ∀ fields name x, v.fields? = some fields → fields.get? name = some x → x.Printable) : v.Printable :=
  throughout_of_parts ⟨ht, fun items h => (he items h).1⟩ (fun items h => (he items h).2) hf

/-- A value that is neither a list nor a record is printable if it has a printed text. -/
theorem printable_of_printed {v : Value} (he : v.elements? = none) (hf : v.fields? = none)
    (ht : ∃ t, v.printed = .ok t) : v.Printable :=
  printable_of_parts ht (by simp [he]) (by simp [hf])

theorem hereditary_printable : Hereditary Printable := hereditary_throughout ⟨⟨[], rfl⟩, fun _ h => by cases h⟩

theorem countable_printable : Markup.Countable Printable := fun v _ hv hi => (hv v .self).2 _ hi

/-- The sequences among the parts of a value have no more elements than numbers of the digit limit. -/
def Counted : Value → Prop := Throughout fun w => ∀ items, w.elements? = some items → items.length ≤ digitBound

theorem hereditary_counted : Hereditary Counted := hereditary_throughout fun _ h => by cases h

theorem countable_counted : Markup.Countable Counted := fun v _ hv hi => hv v .self _ hi

theorem Printable.counted {v : Value} (hv : v.Printable) : v.Counted := fun w hw => (hv w hw).2

theorem avoids_holdValue_printable (bad : Fault → Prop) (v : Value) (hv : v.Printable) :
    (Resolve.holdValue v).Avoids bad := by
  obtain ⟨t, ht⟩ := (hv v .self).1
  exact Resolve.avoids_holdValue fun fault hfault => by
    rw [ht] at hfault
    cases hfault

end Value

/-! ## Weaving a body -/

namespace Slots

variable {s : Slots}

/-- Weaving a written flat tree of held texts gives its meaning outside all loops. -/
theorem weave_print (vars : Fields) (metadata : Metadata) : ∀ {m : Markup}, m.Flat → m.Formed s.Held →
    s.weave vars metadata m.print = m.meaning (Markup.outsideText vars metadata) s (.outer vars)
  | .done, _, _ => rfl
  | .text t rest, hflat, ⟨ht, hr⟩ => by
    rw [Markup.print, weave_held_append ht, weave_print vars metadata (m := rest) hflat hr, Markup.meaning_text]
    rfl
  | .place n rest, hflat, ⟨hn, _, hr⟩ => by
    have hread := Markup.placeholder?_placeText hn rest.print
    have hne : Markup.placeText n ≠ [] := by simp [Markup.placeText]
    have hweave : s.weave vars metadata (Markup.placeText n ++ rest.print) = _ :=
      weave_placeholder (p := ⟨n, Markup.placeText n⟩) hread hne (slotFree_placeText hn)
    rw [Markup.print, hweave, weave_print vars metadata (m := rest) hflat hr, Markup.meaning_place,
      Markup.placeWith_outer]
    rfl

end Slots

/-! ## Documents -/

section Documents

variable {m : Markup} {vars : Fields} {metadata : Metadata} {budget : Nat}

/-- Placeholders whose values all print are filled. -/
theorem substitute_succeeds (h : ∀ name v, placeholderValue? vars metadata name = some v → ∃ t, v.printed = .ok t)
    (t : Text) : ∃ filled, substitute t vars metadata = .ok filled := by
  have hone : ∀ p, ∃ u, substituteOne vars metadata p = .ok u := by
    intro p
    unfold substituteOne
    split
    · rename_i v hv
      exact h _ v hv
    · exact ⟨_, rfl⟩
  have hall : ∀ ps, ∃ filled, Text.writeM (substituteOne vars metadata) ps = .ok filled := by
    intro ps
    induction ps with
    | nil => exact ⟨[], rfl⟩
    | cons piece ps ih =>
      obtain ⟨filled, hfilled⟩ := ih
      cases piece with
      | char c => exact ⟨c :: filled, by rw [Text.writeM, hfilled]; rfl⟩
      | item p =>
        obtain ⟨u, hu⟩ := hone p
        exact ⟨u ++ filled, by rw [Text.writeM, hu, hfilled]; rfl⟩
  exact hall _

/-- A well-formed template whose values are printable resolves. -/
theorem resolveDirectives_succeeds (hm : m.WellFormed) (hb : 0 < budget)
    (hvars : ∀ name v, vars.get? name = some v → v.Printable) :
    ∃ resolved ledger, (resolveDirectives budget m.print vars).run .empty = .ok resolved ledger := by
  obtain ⟨m', ledger, hrun⟩ := (avoids_resolve Value.hereditary_printable (Value.avoids_holdValue_printable _) hb
    (depthAllowance m.print) _ m (.outer hvars) (loopDepth_lt_depthAllowance m)).succeeds .empty
  exact ⟨m'.print, ledger, by rw [resolveDirectives_print hm.braceFree, Resolve.run_map, hrun]⟩

/-- **Weaving evaluates.** With at least as many passes as conditionals nest without crossing a loop, the resolved
template holds issued tokens only, and is woven into what the template evaluates to. -/
theorem weave_resolved {p : Value → Prop} (hp : Value.Hereditary p) (hc : Markup.Countable p) (hm : m.WellFormed)
    (hb : max 1 m.depth ≤ budget) (hvars : ∀ name v, vars.get? name = some v → p v) {resolved : Text}
    {ledger : Ledger} (h : (resolveDirectives budget m.print vars).run .empty = .ok resolved ledger) :
    Issued ledger.slots.length resolved ∧
    ledger.slots.weave vars metadata resolved = m.eval metadata (.outer vars) := by
  have hpasses : 0 < budget := by omega
  have hdepth : m.depth ≤ budget := by omega
  have hheld : m.Formed Ledger.empty.slots.Held := ((formed_plain_iff m).2 hm).mono fun _ h => .inl h
  have hmeans : Means (outsideText vars metadata) (.outer vars) _ .empty _ := means_resolve hp hc hpasses
    (depthAllowance m.print) _ m .empty (.outer hvars) ((depth_le_iff m).1 hdepth).2 hheld
  rw [resolveDirectives_print hm.braceFree] at h
  obtain ⟨m', hrun, rfl⟩ := Resolve.run_map_eq_ok h
  obtain ⟨-, hform, hmeaning⟩ := hmeans m' ledger hrun
  have hflat := ensures_flat_resolve hpasses _ _ m hm.braceFree hdepth .empty m' ledger hrun
  refine ⟨issued_print hform, ?_⟩
  rw [Slots.weave_print vars metadata hflat hform, hmeaning, eval_eq_evalWith]
  exact meaning_of_none_held _ m

/-- The placeholders of a template whose values print are filled with printed texts. -/
theorem placeholderValue?_prints (hvars : ∀ name v, vars.get? name = some v → v.Printable)
    (hmetadata : ∀ name v, metadata.get? name = some v → ∃ t, v.printed = .ok t) (name : Text) (v : Value)
    (h : placeholderValue? vars metadata name = some v) : ∃ t, v.printed = .ok t := by
  rcases Option.or_eq_some_iff.1 h with h | ⟨-, h⟩
  · exact hmetadata name v h
  · exact (hvars name v h v .self).1

/-- **Rendering evaluates.** With at least as many passes as conditionals nest without crossing a loop, resolving the
directives of a well-formed template, filling the placeholders and putting the held texts back gives what the template
evaluates to. The bound on the held texts is that of the digits a token is read with. -/
theorem document_eval (hm : m.WellFormed) (hb : max 1 m.depth ≤ budget)
    (hvars : ∀ name v, vars.get? name = some v → v.Printable)
    (hmetadata : ∀ name v, metadata.get? name = some v → ∃ t, v.printed = .ok t)
    (hopen : ∀ name v t, placeholderValue? vars metadata name = some v → v.printed = .ok t → slotOpen ∉ t) :
    ∃ resolved ledger filled document,
      (resolveDirectives budget m.print vars).run .empty = .ok resolved ledger ∧
      substitute resolved vars metadata = .ok filled ∧
      m.eval metadata (.outer vars) = .ok document ∧
      (ledger.slots.length ≤ digitBound → ledger.slots.restore filled = .ok document) := by
  have hpasses : 0 < budget := by omega
  obtain ⟨resolved, ledger, hrun⟩ := resolveDirectives_succeeds hm hpasses hvars
  have hresolved : Issued ledger.slots.length resolved ∧
      ledger.slots.weave vars metadata resolved = m.eval metadata (.outer vars) :=
    weave_resolved Value.hereditary_printable Value.countable_printable hm hb hvars hrun
  obtain ⟨hissued, heval⟩ := hresolved
  obtain ⟨filled, hfilled⟩ := substitute_succeeds (placeholderValue?_prints hvars hmetadata) resolved
  have hwoven := Slots.woven_of_issued Slots.guard_not_open hopen resolved hissued
  rw [Slots.Woven, hfilled] at hwoven
  obtain ⟨hweave, -, hlong⟩ := hwoven
  exact ⟨resolved, ledger, filled, ledger.slots.fill filled, hrun, hfilled, heval.symm.trans hweave, fun hcount =>
    ledger.slots.restore_eq_fill (hlong.trans (Slots.overlong?_of_issued hissued hcount))⟩

/-- A loop with a conditional in it, and a placeholder after it. -/
def greeting : Markup := forEach "people" (onlyIf "this.here" (lit "Hello " ++ slot "this.name")) ++ slot "sign"

def greetingVariables : Fields :=
  [(.str "people".text, .list [.record [(.str "here".text, .bool true), (.str "name".text, .str "Ada".text)]]),
    (.str "sign".text, .str "!".text)]

def greetingMetadata : Metadata := ⟨.str "now".text, .str Metadata.defaultVersion, .str Metadata.defaultSource⟩

theorem printable_greetingVariables (name : Text) (v : Value) (h : greetingVariables.get? name = some v) :
    v.Printable := by
  have hperson :
      (Value.record [(.str "here".text, .bool true), (.str "name".text, .str "Ada".text)]).Printable := by
    refine Value.printable_of_parts ⟨_, rfl⟩ (fun _ h => by cases h) fun fields name x hf hx => ?_
    cases hf
    simp only [Fields.get?] at hx
    split at hx
    · cases hx
      exact Value.printable_of_printed rfl rfl ⟨_, rfl⟩
    · split at hx
      · cases hx
        exact Value.printable_of_printed rfl rfl ⟨_, rfl⟩
      · cases hx
  simp only [greetingVariables, Fields.get?] at h
  split at h
  · cases h
    refine Value.printable_of_parts ⟨_, rfl⟩ (fun items hi => ?_) fun _ _ _ hf => by cases hf
    cases hi
    refine ⟨digitBound_pos, fun x hx => ?_⟩
    rw [List.mem_singleton.1 hx]
    exact hperson
  · split at h
    · cases h
      exact Value.printable_of_printed rfl rfl ⟨_, rfl⟩
    · cases h

theorem greetingMetadata_prints {name : Text} {v : Value} (h : greetingMetadata.get? name = some v) :
    ∃ t, v.printed = .ok t ∧ slotOpen ∉ t := by
  simp only [Metadata.get?] at h
  split at h
  · cases h
    exact ⟨_, rfl, by decide⟩
  · split at h
    · cases h
      exact ⟨_, rfl, by decide⟩
    · split at h
      · cases h
        exact ⟨_, rfl, by decide⟩
      · cases h

theorem shows_greeting : Slots.Shows greetingVariables greetingMetadata (slotOpen ∉ ·) := by
  intro name v t h ht
  rcases Option.or_eq_some_iff.1 h with h | ⟨-, h⟩
  · obtain ⟨u, hu, hopen⟩ := greetingMetadata_prints h
    cases hu.symm.trans ht
    exact hopen
  · simp only [greetingVariables, Fields.get?] at h
    split at h
    · cases h
      cases ht
      decide
    · split at h
      · cases h
        cases ht
        decide
      · cases h

theorem greeting_document :
    greeting.eval greetingMetadata (.outer greetingVariables) = .ok "Hello Ada!".text ∧
    ∃ resolved ledger filled document,
      (resolveDirectives 1 greeting.print greetingVariables).run .empty = .ok resolved ledger ∧
      substitute resolved greetingVariables greetingMetadata = .ok filled ∧
      greeting.eval greetingMetadata (.outer greetingVariables) = .ok document ∧
      (ledger.slots.length ≤ digitBound → ledger.slots.restore filled = .ok document) := by
  have hformed : greeting.WellFormed := by
    simp [greeting, forEach, onlyIf, lit, slot, WellFormed]
    decide
  exact ⟨rfl, document_eval hformed (by decide) printable_greetingVariables
    (fun _ _ h => (greetingMetadata_prints h).imp fun _ h => h.1) shows_greeting⟩

end Documents

end Stencil
