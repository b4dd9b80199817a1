import Mathlib.Data.List.Basic
import Stencil.Proofs.Template.Drafts
import Stencil.Template.History

/-!
# A registry and its history

* **Steps** (`Registry.Records.change`): a registry whose entries are those of a history has, after a change, the
  entries of the history with that change. The names of a history are read forwards, so each part of it has a lemma
  on a change at the end (`History.registeredNames_append`, `History.standing_append`).
* **Stored entries** (`Registry.Sound`) pass validation and stand under their own names, and changes keep that.
* **Answers** (`Registry.answers_eq_history`): to any requests, one after the other, a registry answers what can be
  read from the history of its changes alone.
-/

namespace Stencil

/-! ## Maps and lists -/

namespace NameMap

variable {α : Type}

/-- Under distinct names, each name finds its own entry. -/
theorem map_snd_eq_filterMap : ∀ {es : List (Text × α)}, (es.map Prod.fst).Nodup →
    es.map Prod.snd = (es.map Prod.fst).filterMap fun name => find? name es
  | [], _ => rfl
  | (k, a) :: rest, h => by
    obtain ⟨hk, hrest⟩ := List.nodup_cons.1 h
    have hothers : ∀ name ∈ rest.map Prod.fst, find? name ((k, a) :: rest) = find? name rest := by
      intro name hname
      have hne : k ≠ name := fun e => hk (e ▸ hname)
      simp [find?, hne]
    rw [List.map_cons, List.map_cons, List.filterMap_cons_some (b := a) (by simp [find?]),
      List.filterMap_congr hothers, map_snd_eq_filterMap hrest]

/-- The names give the entries, each in the place of its name. -/
theorem values_eq_filterMap (m : NameMap α) : m.values = m.names.filterMap m.get? :=
  map_snd_eq_filterMap m.nodup

theorem mem_put {name : Text} {a : α} {e : Text × α} : ∀ {es : List (Text × α)},
    e ∈ put name a es → e = (name, a) ∨ e ∈ es
  | [], h => .inl (List.mem_singleton.1 h)
  | (k, b) :: rest, h => by
    rw [put] at h
    split at h
    · rcases List.mem_cons.1 h with h | h
      · exact .inl h
      · exact .inr (List.mem_cons_of_mem _ h)
    · rcases List.mem_cons.1 h with rfl | h
      · exact .inr (by simp)
      · exact (mem_put h).imp_right (List.mem_cons_of_mem _)

end NameMap

/-- Dropping elements before or after dropping repetitions is the same. -/
theorem eraseDups_filter (p : Text → Bool) (l : List Text) : (l.filter p).eraseDups = l.eraseDups.filter p := by
  induction hn : l.length using Nat.strongRecOn generalizing l with
  | ind n ih =>
    subst hn
    cases l with
    | nil => rfl
    | cons a as =>
      have hlt : (as.filter fun b => !b == a).length < (a :: as).length :=
        Nat.lt_succ_of_le (List.length_filter_le _ _)
      have htail : ((as.filter p).filter fun b => !b == a).eraseDups
          = ((as.filter fun b => !b == a).eraseDups).filter p := by
        rw [← ih _ hlt _ rfl, List.filter_filter, List.filter_filter]
        simp only [Bool.and_comm]
      cases hp : p a with
      | true => rw [List.filter_cons_of_pos hp, List.eraseDups_cons, htail, List.eraseDups_cons,
          List.filter_cons_of_pos hp]
      | false =>
        have hkeep : ((as.filter p).filter fun b => !b == a) = as.filter p := by
          refine List.filter_eq_self.2 fun b hb => ?_
          have hne : b ≠ a := by
            rintro rfl
            rw [(List.mem_filter.1 hb).2] at hp
            cases hp
          simp [hne]
        rw [List.filter_cons_of_neg (by simp [hp]), ← hkeep, htail, List.eraseDups_cons,
          List.filter_cons_of_neg (by simp [hp])]

/-- A repetition at the end is dropped. -/
theorem eraseDups_append_singleton (l : List Text) (a : Text) :
    (l ++ [a]).eraseDups = if a ∈ l then l.eraseDups else l.eraseDups ++ [a] := by
  by_cases h : a ∈ l <;> simp [List.eraseDups_append, List.removeAll, h, List.eraseDups_cons]

/-! ## A change at the end of a history -/

namespace History

variable (h : History) (c : Change)

theorem template?_append (name : Text) : (h ++ [c]).template? name =
    (c.template?.filter (·.name = name)).or (h.template? name) := by
  rw [template?, List.reverse_append, List.reverse_singleton, List.singleton_append]
  cases c with
  | register d => cases hd : d.validate with
    | ok t => by_cases ht : t.name = name <;>
        simp [lastTemplate?, Change.template?, Except.toOption, Option.filter, template?,
        hd, ht]
    | error problems => simp [lastTemplate?, Change.template?, Except.toOption, template?, hd]
  | customize d => simp [lastTemplate?, Change.template?, template?]
  | remove other => simp [lastTemplate?, Change.template?, template?]

theorem cover?_append (name : Text) : (h ++ [c]).cover? name =
    if c.removes name then none else (c.cover?.filter (·.name = name)).or (h.cover? name) := by
  rw [cover?, List.reverse_append, List.reverse_singleton, List.singleton_append]
  cases c with
  | register d => simp [lastCover?, Change.cover?, Change.removes, cover?]
  | customize d => cases hd : d.validate with
    | ok x => by_cases hx : x.name = name <;>
        simp [lastCover?, Change.cover?, Change.removes, Except.toOption, Option.filter, cover?, hd,
          hx]
    | error problems => simp [lastCover?, Change.cover?, Change.removes, Except.toOption, cover?, hd]
  | remove other =>
    by_cases ho : name = other
    · simp [lastCover?, Change.removes, ho]
    · simp [lastCover?, Change.cover?, Change.removes, cover?, ho, Ne.symm ho]

theorem registeredNames_append : (h ++ [c]).registeredNames = match c.template? with
    | some t => if t.name ∈ h.registeredNames then h.registeredNames else h.registeredNames ++ [t.name]
    | none => h.registeredNames := by
  simp only [registeredNames, List.filterMap_append, List.filterMap_cons, List.filterMap_nil]
  cases c.template? with
  | none => simp
  | some t => simp only [List.map_append, List.map_cons, List.map_nil, eraseDups_append_singleton, List.mem_eraseDups]

/-- The customizations that stand are those before without the removed one, and then the new one. -/
theorem standing_append : ∀ h : History, (h ++ [c]).standing =
    (h.standing.filter fun x => !c.removes x.name) ++ c.cover?.toList
  | [] => by
    cases hc : c.cover? <;> simp [standing, hc]
  | first :: later => by
    have ih := standing_append later
    rw [List.cons_append, standing, standing, ih]
    cases first.cover? with
    | none => rfl
    | some x =>
      simp only [List.any_append, List.any_cons, List.any_nil, Bool.or_false]
      cases later.any (Change.removes x.name) <;> cases hr : c.removes x.name <;> simp [hr]

/-- A change that puts a customization in place removes none. -/
theorem removes_of_cover {c : Change} {x : Customization} (hx : c.cover? = some x) (name : Text) :
    c.removes name = false := by
  cases c with
  | customize d => rfl
  | _ => cases hx

theorem coveredNames_append : (h ++ [c]).coveredNames = match c.cover? with
    | some x => if x.name ∈ h.coveredNames then h.coveredNames else h.coveredNames ++ [x.name]
    | none => h.coveredNames.filter fun name => !c.removes name := by
  have hfilter : ((h.standing.filter fun x => !c.removes x.name).map (·.name)).eraseDups
      = h.coveredNames.filter fun name => !c.removes name := by
    rw [coveredNames, ← eraseDups_filter, List.filter_map]
    rfl
  cases hc : c.cover? with
  | none => simp only [coveredNames, standing_append, hc, Option.toList_none, List.append_nil, hfilter]
  | some x =>
    have hkeep : (h.standing.filter fun x => !c.removes x.name) = h.standing :=
      List.filter_eq_self.2 fun y _ => by simp [removes_of_cover hc]
    simp only [coveredNames, standing_append, hc, hkeep, Option.toList_some, List.map_append, List.map_cons,
      List.map_nil, eraseDups_append_singleton, List.mem_eraseDups]

end History

/-! ## What a change does -/

namespace Registry

/-- A change of a registry, with the registry after it and the answer to it. -/
inductive Served (r : Registry) : Change → Registry → Answer → Prop
  | registered {d : TemplateDraft} {t : Template} (hv : d.validate = .ok t) (hp : d.problems = []) :
      Served r (.register d) (r.add t) .done
  | covered {d : CustomizationDraft} {x : Customization} (hv : d.validate = .ok x) (hp : d.problems = []) :
      Served r (.customize d) (r.cover x) .done
  | removed (name : Text) : Served r (.remove name) { r with overlay := r.overlay.erase name }
      (.removed (r.overlay.get? name).isSome)
  | invalidTemplate {d : TemplateDraft} (hv : d.validate = .error d.problems) (hp : d.problems ≠ []) :
      Served r (.register d) r (.refused (.invalid d.name (d.problems.map Problem.message)))
  | invalidCustomization {d : CustomizationDraft} (hv : d.validate = .error d.problems) (hp : d.problems ≠ []) :
      Served r (.customize d) r (.refused (.invalid d.name (d.problems.map Problem.message)))

theorem served (r : Registry) (c : Change) : r.Served c (r.change c) (r.answer (.change c)) := by
  cases c with
  | register d =>
    rcases d.validate_cases with ⟨t, hv, hp⟩ | ⟨hv, hp⟩
    · have hreg : r.register d = .ok (r.add t) := by rw [register, checkTemplate, hv]; rfl
      simp only [change, answer, hreg]
      exact .registered hv hp
    · have hreg : r.register d = .error (.invalid d.name (d.problems.map Problem.message)) := by
        rw [register, checkTemplate, hv]; rfl
      simp only [change, answer, hreg]
      exact .invalidTemplate hv hp
  | customize d =>
    rcases d.validate_cases with ⟨x, hv, hp⟩ | ⟨hv, hp⟩
    · have hcov : r.customize d = .ok (r.cover x) := by rw [customize, checkCustomization, hv]; rfl
      simp only [change, answer, hcov]
      exact .covered hv hp
    · have hcov : r.customize d = .error (.invalid d.name (d.problems.map Problem.message)) := by
        rw [customize, checkCustomization, hv]; rfl
      simp only [change, answer, hcov]
      exact .invalidCustomization hv hp
  | remove name => exact .removed name

/-! ## Stored entries -/

/-- What is stored passes validation and stands under its own name. -/
structure Sound (r : Registry) : Prop where
  templates : ∀ e ∈ r.templates.entries, e.2.name = e.1 ∧ (TemplateDraft.ofTemplate e.2).problems = []
  customizations : ∀ e ∈ r.overlay.entries, e.2.name = e.1 ∧ (CustomizationDraft.ofCustomization e.2).problems = []

theorem sound_empty : empty.Sound where
  templates _ he := absurd he List.not_mem_nil
  customizations _ he := absurd he List.not_mem_nil

theorem Served.sound {r r' : Registry} {c : Change} {a : Answer} (hs : r.Served c r' a) (hr : r.Sound) : r'.Sound := by
  cases hs with
  | registered hv _ =>
    refine ⟨fun e he => ?_, hr.customizations⟩
    rcases NameMap.mem_put he with rfl | he
    · exact ⟨rfl, TemplateDraft.problems_ofTemplate hv⟩
    · exact hr.templates e he
  | covered hv _ =>
    refine ⟨hr.templates, fun e he => ?_⟩
    rcases NameMap.mem_put he with rfl | he
    · exact ⟨rfl, CustomizationDraft.problems_ofCustomization hv⟩
    · exact hr.customizations e he
  | removed name => exact ⟨hr.templates, fun e he => hr.customizations e (List.mem_filter.1 he).1⟩
  | invalidTemplate => exact hr
  | invalidCustomization => exact hr

/-! ## Entries of a history -/

/-- The templates of a map are those that a history registers. -/
structure RecordsTemplates (m : NameMap Template) (h : History) : Prop where
  get? (name : Text) : m.get? name = h.template? name
  names : m.names = h.registeredNames

/-- The customizations of a map are those that a history leaves. -/
structure RecordsCustomizations (m : NameMap Customization) (h : History) : Prop where
  get? (name : Text) : m.get? name = h.cover? name
  names : m.names = h.coveredNames

variable {r r' : Registry} {h : History} {c : Change} {a : Answer}

section Templates

variable {m : NameMap Template} (hm : RecordsTemplates m h)

include hm

theorem RecordsTemplates.keep (hc : c.template? = none) : RecordsTemplates m (h ++ [c]) where
  get? name := by rw [hm.get?, History.template?_append, hc, Option.filter_none, Option.none_or]
  names := by rw [hm.names, History.registeredNames_append, hc]

theorem RecordsTemplates.insert {t : Template} (hc : c.template? = some t) :
    RecordsTemplates (m.insert t.name t) (h ++ [c]) where
  get? name := by
    rw [NameMap.get?_insert, hm.get?, History.template?_append, hc, Option.filter]
    by_cases hn : name = t.name
    · simp [hn]
    · simp [hn, Ne.symm hn]
  names := by rw [NameMap.names_insert, hm.names, History.registeredNames_append, hc]

theorem RecordsTemplates.values_eq : m.values = h.registeredNames.filterMap h.template? := by
  rw [NameMap.values_eq_filterMap, hm.names, funext hm.get?]

end Templates

section Customizations

variable {m : NameMap Customization} (hm : RecordsCustomizations m h)

include hm

theorem RecordsCustomizations.keep (hc : c.cover? = none) (hrem : ∀ name, c.removes name = false) :
    RecordsCustomizations m (h ++ [c]) where
  get? name := by simp [hm.get?, History.cover?_append, hc, hrem]
  names := by simp [hm.names, History.coveredNames_append, hc, hrem]

theorem RecordsCustomizations.insert {x : Customization} (hc : c.cover? = some x) :
    RecordsCustomizations (m.insert x.name x) (h ++ [c]) where
  get? name := by
    rw [NameMap.get?_insert, hm.get?, History.cover?_append, History.removes_of_cover hc, hc, Option.filter]
    by_cases hn : name = x.name
    · simp [hn]
    · simp [hn, Ne.symm hn]
  names := by rw [NameMap.names_insert, hm.names, History.coveredNames_append, hc]

theorem RecordsCustomizations.erase (other : Text) :
    RecordsCustomizations (m.erase other) (h ++ [.remove other]) where
  get? name := by
    rw [NameMap.get?_erase, hm.get?, History.cover?_append]
    by_cases hn : name = other
    · simp [Change.removes, hn]
    · simp [Change.removes, Change.cover?, hn]
  names := by
    rw [NameMap.names_erase, hm.names, History.coveredNames_append]
    refine List.filter_congr fun name _ => ?_
    simp [Change.removes]

theorem RecordsCustomizations.values_eq : m.values = h.listCustom := by
  rw [NameMap.values_eq_filterMap, hm.names, funext hm.get?]
  rfl

end Customizations

/-- What is stored in a registry is what a history gives. -/
structure Records (r : Registry) (h : History) : Prop where
  templates : RecordsTemplates r.templates h
  customizations : RecordsCustomizations r.overlay h

theorem records_empty : empty.Records [] := ⟨⟨fun _ => rfl, rfl⟩, ⟨fun _ => rfl, rfl⟩⟩

/-- **A change keeps what is stored that of the history.** -/
theorem Served.records (hs : r.Served c r' a) (hr : r.Records h) : r'.Records (h ++ [c]) := by
  have htemplates := hr.templates
  have hcustom := hr.customizations
  cases hs with
  | @registered d t hv _ =>
    have ht : (Change.register d).template? = some t := by rw [Change.template?, hv]; rfl
    exact ⟨htemplates.insert ht, hcustom.keep rfl fun _ => rfl⟩
  | @covered d x hv _ =>
    have hx : (Change.customize d).cover? = some x := by rw [Change.cover?, hv]; rfl
    exact ⟨htemplates.keep rfl, hcustom.insert hx⟩
  | removed name => exact ⟨htemplates.keep rfl, hcustom.erase name⟩
  | @invalidTemplate d hv _ =>
    have ht : (Change.register d).template? = none := by rw [Change.template?, hv]; rfl
    exact ⟨htemplates.keep ht, hcustom.keep rfl fun _ => rfl⟩
  | @invalidCustomization d hv _ =>
    have hx : (Change.customize d).cover? = none := by rw [Change.cover?, hv]; rfl
    exact ⟨htemplates.keep rfl, hcustom.keep hx fun _ => rfl⟩

/-! ## Answers -/

theorem Records.asTemplate (hr : r.Records h) : r.asTemplate = h.asTemplate := by
  funext x
  rw [Registry.asTemplate, History.asTemplate, hr.templates.get?]

theorem Records.get? (hr : r.Records h) (name : Text) : r.get? name = h.get? name := by
  rw [Registry.get?, History.get?, hr.asTemplate, hr.templates.get?, hr.customizations.get?]
  cases h.cover? name <;> rfl

/-- A draft is answered by its problems, and a customization is found if the history leaves it. -/
theorem Served.answer_eq (hs : r.Served c r' a) (hr : r.Records h) : a = h.answer (.change c) := by
  cases hs with
  | registered _ hp => simp [History.answer, History.answerDraft, hp]
  | covered _ hp => simp [History.answer, History.answerDraft, hp]
  | removed name => rw [History.answer, hr.customizations.get?]
  | invalidTemplate _ hp => simp [History.answer, History.answerDraft, hp]
  | invalidCustomization _ hp => simp [History.answer, History.answerDraft, hp]

theorem Records.answer (hr : r.Records h) : ∀ q : Request, r.answer q = h.answer q
  | .change c => (r.served c).answer_eq hr
  | .get name => congrArg Answer.template (hr.get? name)
  | .getCustom name => congrArg Answer.customization (hr.customizations.get? name)
  | .list => by
    rw [Registry.answer, Registry.list, hr.templates.values_eq, hr.customizations.values_eq, hr.asTemplate]
    rfl
  | .listCustom => congrArg Answer.customizations hr.customizations.values_eq

theorem Records.next (hr : r.Records h) : ∀ q : Request, (r.next q).Records (h.next q)
  | .change c => (r.served c).records hr
  | .get _ | .getCustom _ | .list | .listCustom => hr

/-- The registry after changes stores what the history of the changes gives. -/
theorem Records.after (changes : List Change) : ∀ {r : Registry} {h : History}, r.Records h →
    (r.after changes).Records (h ++ changes) := by
  induction changes with
  | nil => exact fun {r h} hr => by rwa [List.append_nil]
  | cons c later ih =>
    intro r h hr
    have hnext := ih ((r.served c).records hr)
    rwa [List.append_assoc, List.singleton_append] at hnext

theorem Sound.next (hr : r.Sound) : ∀ q : Request, (r.next q).Sound
  | .change c => (r.served c).sound hr
  | .get _ | .getCustom _ | .list | .listCustom => hr

/-- A draft that is refused leaves the registry as it is. -/
theorem next_of_refused {e : TemplateError} : ∀ {q : Request}, r.answer q = .refused e → r.next q = r
  | .change c, h => by
    have hs := r.served c
    rw [h] at hs
    show r.change c = r
    generalize r.change c = r' at hs
    cases hs <;> rfl

/-! ## Runs -/

/-- If related states give the same answers and the states after a request are related, then runs from related states
give the same answers. -/
theorem Request.answers_congr {σ τ : Type} {next : σ → Request → σ} {answer : σ → Request → Answer}
    {next' : τ → Request → τ} {answer' : τ → Request → Answer} {rel : σ → τ → Prop}
    (hanswer : ∀ s t, rel s t → ∀ q, answer s q = answer' t q)
    (hnext : ∀ s t, rel s t → ∀ q, rel (next s q) (next' t q)) :
    ∀ (qs : List Request) {s : σ} {t : τ}, rel s t → answers next answer s qs = answers next' answer' t qs
  | [], _, _, _ => rfl
  | q :: qs, s, t, h => by
    rw [answers, answers, hanswer s t h q, answers_congr hanswer hnext qs (hnext s t h q)]

theorem sound_served (requests : List Request) : ∀ {r : Registry}, r.Sound → (requests.foldl next r).Sound := by
  induction requests with
  | nil => exact id
  | cons q qs ih => exact fun hr => ih (hr.next q)

/-- **A registry answers as its history.** The answers to any requests are those that the history of the changes before
them gives. At every time a refused draft leaves the registry as it is, and what is stored passes validation and stands
under its own name. -/
theorem answers_eq_history (requests : List Request) :
    Request.answers next answer empty requests = Request.answers History.next History.answer [] requests ∧
    (∀ q e, (requests.foldl next empty).answer q = .refused e →
      (requests.foldl next empty).next q = requests.foldl next empty) ∧
    (requests.foldl next empty).Sound :=
  ⟨Request.answers_congr (fun _ _ h => h.answer) (fun _ _ h => h.next) requests records_empty,
    fun _ _ h => next_of_refused h, sound_served requests sound_empty⟩

end Registry

end Stencil
