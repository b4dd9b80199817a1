import Stencil.Proofs.Directive.Entering
import Stencil.Proofs.Directive.Meaning

/-!
# What elements show

* **Fields** (`Value.field?`): a name after `this.` reads a field of the innermost element and nothing else; a bare name
  (`Markup.Bare`) reads the innermost field of the name, and past all elements what stands outside.
* **Bodies that guard themselves** (`Markup.selfGuarded`): conditionals and loops test the element alone.
* The text of such a body depends on its element, and on what its bare names (`Markup.bareNames`) show
  (`evalWith_congr_bare`).
-/

namespace Stencil

/-! ## Fields -/

namespace Value

/-- The value of a field, if the value is a mapping that has it. -/
def field? (v : Value) (name : Text) : Option Value := v.fields?.bind fun fields => fields.get? name

/-- The value of a field, null where there is none. -/
def field (v : Value) (name : String) : Value := (v.field? name.text).getD .null

/-- The value is a mapping with a field of the name. -/
def HasField (v : Value) (name : String) : Prop := (v.field? name.text).isSome

end Value

theorem Frame.get?_fields (f : Frame) (n : Text) : f.fields.get? n = f.item.field? n := by
  rw [Frame.fields, Value.field?]
  cases f.item.fields? <;> rfl

namespace Markup

/-- A name that reads the innermost element or a field of it. -/
def OfElement (n : Text) : Prop := n = thisName ∨ thisPoint.isPrefixOf n

instance (n : Text) : Decidable (OfElement n) := inferInstanceAs (Decidable (n = thisName ∨ _))

/-- A name that an element answers with a field, if it answers it. -/
def Bare (n : Text) : Prop := n ∉ reservedNames ∧ n ≠ indexName ∧ ¬OfElement n

instance (n : Text) : Decidable (Bare n) := inferInstanceAs (Decidable (n ∉ reservedNames ∧ _ ∧ _))

end Markup

namespace Scope

open Markup

variable {metadata : Metadata} {s s' : Scope} {index : Nat} {item : Value} {n : Text}

theorem lookup_enter_field {full name : Text} (h : full = thisPoint ++ name) :
    (s.enter index item).lookup full = (item.field? name).getD .null := by
  rw [h, Scope.lookup, Text.after?_append]
  rfl

/-- What reads the innermost element does not depend on the elements around it or on the variables. -/
theorem lookup_enter_congr (h : OfElement n) (index' : Nat) :
    (s.enter index item).lookup n = (s'.enter index' item).lookup n := by
  rcases h with rfl | h
  · rfl
  · obtain ⟨name, rfl⟩ := List.isPrefixOf_iff_prefix.1 h
    rw [lookup_enter_field rfl, lookup_enter_field rfl]

theorem not_reserved_of_field {full name : Text} (h : full = thisPoint ++ name) :
    ¬reservedNames.contains full = true ∧ full ≠ indexName := by
  have hsecond : full[1]? = some (Point.char 'h') := by rw [h]; rfl
  refine ⟨fun hr => ?_, ?_⟩
  · rcases contains_reservedNames.1 hr with rfl | rfl | rfl <;> exact absurd hsecond (by decide)
  · rintro rfl
    exact absurd hsecond (by decide)

theorem not_reserved_of_ofElement (h : OfElement n) : ¬reservedNames.contains n = true ∧ n ≠ indexName := by
  rcases h with rfl | h
  · decide
  · obtain ⟨name, rfl⟩ := List.isPrefixOf_iff_prefix.1 h
    exact not_reserved_of_field rfl

theorem shown?_enter_ofElement (h : OfElement n) :
    (s.enter index item).shown? metadata n = some ((s.enter index item).lookup n) := by
  obtain ⟨hreserved, hindex⟩ := not_reserved_of_ofElement h
  rw [shown?, if_neg hreserved]
  exact (if_neg hindex).trans (if_pos h)

theorem element?_enter_ofElement (h : OfElement n) :
    (s.enter index item).element? n = some ((s.enter index item).lookup n) := by
  obtain ⟨hreserved, hindex⟩ := not_reserved_of_ofElement h
  rw [element?, if_neg hreserved]
  exact (if_neg hindex).trans (if_pos h)

theorem element?_enter_bare (h : Bare n) :
    (s.enter index item).element? n = (item.field? n).or (s.element? n) := by
  obtain ⟨hreserved, hindex, helement⟩ := h
  have hreserved : ¬reservedNames.contains n = true := by simpa using hreserved
  rw [element?_far hreserved hindex helement, element?_far hreserved hindex helement]
  simp only [enter, List.findSome?_cons, Frame.get?_fields]
  cases item.field? n <;> rfl

theorem shown?_enter_bare (h : Bare n) :
    (s.enter index item).shown? metadata n = (item.field? n).or (s.shown? metadata n) := by
  obtain ⟨hreserved, hindex, helement⟩ := h
  have hreserved : ¬reservedNames.contains n = true := by simpa using hreserved
  rw [shown?_far hreserved hindex helement, shown?_far hreserved hindex helement]
  simp only [fieldOrVariable?, enter, List.findSome?_cons, Frame.get?_fields]
  cases item.field? n <;> rfl

end Scope

/-! ## Bodies that guard themselves -/

namespace Markup

/-- The names of the placeholders of a tree that do not read the element itself. -/
def bareNames : Markup → List Text
  | done => []
  | text _ rest => rest.bareNames
  | place n rest => if OfElement n then rest.bareNames else n :: rest.bareNames
  | when _ yes rest => yes.bareNames ++ rest.bareNames
  | choice _ yes no rest => yes.bareNames ++ no.bareNames ++ rest.bareNames
  | each _ body rest => body.bareNames ++ rest.bareNames

/-- The conditionals and loops of a tree test the innermost element alone. -/
def selfGuarded : Markup → Bool
  | done => true
  | text _ rest => rest.selfGuarded
  | place _ rest => rest.selfGuarded
  | when n yes rest => decide (OfElement n) && yes.selfGuarded && rest.selfGuarded
  | choice n yes no rest => decide (OfElement n) && yes.selfGuarded && no.selfGuarded && rest.selfGuarded
  | each n body rest => decide (OfElement n) && body.selfGuarded && rest.selfGuarded

section Bodies

variable {outside outside' : Text → Except TextFault Text} {s s' : Scope}

theorem placeWith_of_reserved {n : Text} (h : reservedNames.contains n = true) : placeWith outside s n = outside n := by
  rw [placeWith, element?_reserved h]

theorem placeWith_enter_ofElement {n : Text} (h : OfElement n) (index : Nat) (item : Value) :
    placeWith outside (s.enter index item) n = ((s.enter index item).lookup n).printed := by
  rw [placeWith, Scope.element?_enter_ofElement h]

/-- A name that is not reserved shows its variable outside all loops, or itself. -/
theorem outsideText_of_not_reserved {vars : Fields} {metadata : Metadata} {n : Text} (h : n ∉ reservedNames) :
    outsideText vars metadata n = match vars.get? n with
      | some v => v.printed
      | none => .ok (placeText n) := by
  have hreserved : reservedNames.contains n ≠ true := by simpa using h
  have hvalue : placeholderValue? vars metadata n = vars.get? n := by
    rw [placeholderValue?, metadata.get?_of_not_reserved hreserved, Option.none_or]
  change (match placeholderValue? vars metadata n with
    | some v => v.printed
    | none => .ok (placeText n)) = _
  rw [hvalue]

/-- What a name shows inside a loop depends on the element, and on what the name shows outside the loop. -/
theorem placeWith_enter_congr {n : Text} (h : placeWith outside s n = placeWith outside' s' n) {index index' : Nat}
    (hindex : n = indexName → index = index') (item : Value) :
    placeWith outside (s.enter index item) n = placeWith outside' (s'.enter index' item) n := by
  by_cases hreserved : reservedNames.contains n = true
  · rwa [placeWith_of_reserved hreserved, placeWith_of_reserved hreserved] at h ⊢
  by_cases helement : OfElement n
  · rw [placeWith_enter_ofElement helement, placeWith_enter_ofElement helement,
      Scope.lookup_enter_congr helement index']
  by_cases hname : n = indexName
  · subst hname
    rw [hindex rfl]
    rfl
  have hbare : Bare n := ⟨by simpa using hreserved, hname, helement⟩
  rw [placeWith, placeWith, Scope.element?_enter_bare hbare, Scope.element?_enter_bare hbare]
  cases item.field? n with
  | some v => rfl
  | none => exact h

/-- **The text of a body that guards itself** depends on its element, and on what its other names show. -/
theorem evalWith_congr_bare {m : Markup} (hm : m.selfGuarded = true) :
    ∀ {s s' : Scope} {index index' : Nat} {item : Value},
      (∀ n ∈ m.bareNames,
        placeWith outside (s.enter index item) n = placeWith outside' (s'.enter index' item) n) →
      m.evalWith outside (s.enter index item) = m.evalWith outside' (s'.enter index' item) := by
  induction m with
  | done => exact fun _ => rfl
  | text t rest ih =>
    intro s s' index index' item h
    rw [evalWith, evalWith, ih hm h]
  | place n rest ih =>
    intro s s' index index' item h
    by_cases hn : OfElement n
    · rw [bareNames, if_pos hn] at h
      rw [evalWith, evalWith, ih hm h, placeWith_enter_ofElement hn, placeWith_enter_ofElement hn,
        Scope.lookup_enter_congr hn index']
    · rw [bareNames, if_neg hn] at h
      obtain ⟨hhere, hrest⟩ := List.forall_mem_cons.1 h
      rw [evalWith, evalWith, ih hm hrest, hhere]
  | when n yes rest ihy ih =>
    intro s s' index index' item h
    simp only [selfGuarded, Bool.and_eq_true, decide_eq_true_eq] at hm
    obtain ⟨⟨hn, hyes⟩, hrest⟩ := hm
    obtain ⟨hy, hr⟩ := List.forall_mem_append.1 h
    rw [evalWith, evalWith, ihy hyes hy, ih hrest hr, Scope.holds, Scope.holds, Scope.lookup_enter_congr hn index']
  | choice n yes no rest ihy ihn ih =>
    intro s s' index index' item h
    simp only [selfGuarded, Bool.and_eq_true, decide_eq_true_eq] at hm
    obtain ⟨⟨⟨hn, hyes⟩, hno⟩, hrest⟩ := hm
    obtain ⟨hbranches, hr⟩ := List.forall_mem_append.1 h
    obtain ⟨hy, hno'⟩ := List.forall_mem_append.1 hbranches
    rw [evalWith, evalWith, ihy hyes hy, ihn hno hno', ih hrest hr, Scope.holds, Scope.holds,
      Scope.lookup_enter_congr hn index']
  | each n body rest ihb ih =>
    intro s s' index index' item h
    simp only [selfGuarded, Bool.and_eq_true, decide_eq_true_eq] at hm
    obtain ⟨⟨hn, hbody⟩, hrest⟩ := hm
    obtain ⟨hb, hr⟩ := List.forall_mem_append.1 h
    have hitems : loopItems (s.enter index item) n = loopItems (s'.enter index' item) n := by
      rw [loopItems, loopItems, Scope.lookup_enter_congr hn index']
    have hinner : ∀ (inner : Value) (position : Nat), body.evalWith outside ((s.enter index item).enter position inner)
        = body.evalWith outside' ((s'.enter index' item).enter position inner) := fun inner position =>
      ihb hbody fun n hn => placeWith_enter_congr (hb n hn) (fun _ => rfl) inner
    simp only [evalWith, hitems, hinner, ih hrest hr]

end Bodies

/-! ## Names that are left -/

/-- The names that are left of a tree read the element, or they are its bare names. -/
theorem mem_left {m : Markup} : ∀ {s : Scope} {n : Text}, n ∈ m.left s → OfElement n ∨ n ∈ m.bareNames := by
  induction m with
  | done => exact fun h => nomatch h
  | text t rest ih => exact ih
  | place n rest ih =>
    intro s x hx
    by_cases hn : OfElement n
    · rw [bareNames, if_pos hn]
      rcases List.mem_cons.1 hx with rfl | hx
      · exact .inl hn
      · exact ih hx
    · rw [bareNames, if_neg hn]
      rcases List.mem_cons.1 hx with rfl | hx
      · exact .inr List.mem_cons_self
      · exact (ih hx).imp_right (List.mem_cons_of_mem n)
  | when n yes rest ihy ih =>
    intro s x hx
    rcases List.mem_append.1 hx with hx | hx
    · split at hx
      · exact (ihy hx).imp_right (List.mem_append_left _)
      · cases hx
    · exact (ih hx).imp_right (List.mem_append_right _)
  | choice n yes no rest ihy ihn ih =>
    intro s x hx
    rcases List.mem_append.1 hx with hx | hx
    · split at hx
      · exact (ihy hx).imp_right fun h => List.mem_append_left _ (List.mem_append_left _ h)
      · exact (ihn hx).imp_right fun h => List.mem_append_left _ (List.mem_append_right _ h)
    · exact (ih hx).imp_right (List.mem_append_right _)
  | each n body rest ihb ih =>
    intro s x hx
    rcases List.mem_append.1 hx with hx | hx
    · obtain ⟨⟨item, index⟩, -, hleft⟩ := List.mem_flatMap.1 hx
      exact (ihb (List.mem_of_mem_filter hleft)).imp_right (List.mem_append_left _)
    · exact (ih hx).imp_right (List.mem_append_right _)

theorem answers_ofElement {n : Text} (h : OfElement n) (f : Frame) : f.answers n = true := by
  obtain ⟨hreserved, hindex⟩ := Scope.not_reserved_of_ofElement h
  have hheld : f.held? n = some _ := (if_neg (not_or.2 ⟨hreserved, hindex⟩)).trans (if_pos h)
  rw [Frame.answers, hheld]
  exact Bool.or_true _

theorem answers_of_field {n : Text} (hn : Bare n) {f : Frame} (h : (f.item.field? n).isSome) : f.answers n = true := by
  obtain ⟨hreserved, hindex, helement⟩ := hn
  have hreserved : ¬reservedNames.contains n = true := by simpa using hreserved
  have hheld : f.held? n = f.fields.get? n := (if_neg (not_or.2 ⟨hreserved, hindex⟩)).trans (if_neg helement)
  rw [Frame.answers, hheld, Frame.get?_fields, h]
  exact Bool.or_true _

/-- No name is left of a loop whose elements have fields for the bare names of its body. -/
theorem left_each_eq_nil {n : Text} {body : Markup} {s : Scope}
    (h : ∀ item ∈ (s.lookup n).elements?.getD [], ∀ x ∈ body.bareNames, Bare x ∧ (item.field? x).isSome) :
    (each n body done).left s = [] := by
  refine List.append_eq_nil_iff.2 ⟨List.flatMap_eq_nil_iff.2 ?_, rfl⟩
  rintro ⟨item, index⟩ hmem
  refine List.filter_eq_nil_iff.2 fun x hx => ?_
  have hanswers : (Frame.mk index item).answers x = true := by
    rcases mem_left hx with hx | hx
    · exact answers_ofElement hx _
    · have hitem : item ∈ (s.lookup n).elements?.getD [] := (List.mem_zipIdx' hmem).2 ▸ List.getElem_mem _
      obtain ⟨hbare, hfield⟩ := h item hitem x hx
      exact answers_of_field hbare hfield
  simp [hanswers]

end Markup

end Stencil
