import Stencil.Markup.Evaluation
import Stencil.Proofs.Directive.Faults

/-!
# Resolving keeps the meaning

* **The meaning of a tree in progress** (`Markup.meaning`): what it evaluates to once its tokens are replaced.
* A turn over conditionals keeps it (`meaning_choose`). A loop whose body resolves to flat trees becomes texts and
  placeholders that mean the same outside the loop (`means_fillWith`, `means_loop`).
* Resolving keeps it altogether, when the budget is enough for every loop body (`means_resolve`).
-/

namespace Stencil

open Markup (Plain)
open Text (BraceFree)

namespace Markup

/-! ## Meanings -/

/-- The tree with its texts changed. -/
def withTexts (f : Text → Text) : Markup → Markup
  | done => done
  | text t rest => text (f t) (rest.withTexts f)
  | place n rest => place n (rest.withTexts f)
  | when n yes rest => when n (yes.withTexts f) (rest.withTexts f)
  | choice n yes no rest => choice n (yes.withTexts f) (no.withTexts f) (rest.withTexts f)
  | each n body rest => each n (body.withTexts f) (rest.withTexts f)

theorem withTexts_append (f : Text → Text) (b : Markup) : ∀ a : Markup,
    (a ++ b).withTexts f = a.withTexts f ++ b.withTexts f
  | done => rfl
  | text t rest => by simp [withTexts, withTexts_append f b rest]
  | place n rest => by simp [withTexts, withTexts_append f b rest]
  | when n yes rest => by simp [withTexts, withTexts_append f b rest]
  | choice n yes no rest => by simp [withTexts, withTexts_append f b rest]
  | each n body rest => by simp [withTexts, withTexts_append f b rest]

theorem withTexts_congr {p : Text → Prop} {f g : Text → Text} (h : ∀ t, p t → f t = g t) :
    ∀ {m : Markup}, m.Formed p → m.withTexts f = m.withTexts g
  | done, _ => rfl
  | text _ _, ⟨ht, hr⟩ => by rw [withTexts, withTexts, h _ ht, withTexts_congr h hr]
  | place _ _, ⟨_, _, hr⟩ => by rw [withTexts, withTexts, withTexts_congr h hr]
  | when _ _ _, ⟨_, hy, hr⟩ => by rw [withTexts, withTexts, withTexts_congr h hy, withTexts_congr h hr]
  | choice _ _ _ _, ⟨_, hy, hno, hr⟩ => by
    rw [withTexts, withTexts, withTexts_congr h hy, withTexts_congr h hno, withTexts_congr h hr]
  | each _ _ _, ⟨_, hb, hr⟩ => by rw [withTexts, withTexts, withTexts_congr h hb, withTexts_congr h hr]

theorem withTexts_of_same {f : Text → Text} (h : ∀ t, f t = t) : ∀ m : Markup, m.withTexts f = m
  | done => rfl
  | text t rest => by rw [withTexts, h, withTexts_of_same h rest]
  | place n rest => by rw [withTexts, withTexts_of_same h rest]
  | when n yes rest => by rw [withTexts, withTexts_of_same h yes, withTexts_of_same h rest]
  | choice n yes no rest => by
    rw [withTexts, withTexts_of_same h yes, withTexts_of_same h no, withTexts_of_same h rest]
  | each n body rest => by rw [withTexts, withTexts_of_same h body, withTexts_of_same h rest]

/-- One text and then another, if there are both. -/
def inTurn (a b : Except TextFault Text) : Except TextFault Text := do return (← a) ++ (← b)

theorem inTurn_assoc : ∀ a b c : Except TextFault Text, inTurn (inTurn a b) c = inTurn a (inTurn b c)
  | .error _, _, _ => rfl
  | .ok _, .error _, _ => rfl
  | .ok _, .ok _, .error _ => rfl
  | .ok t, .ok u, .ok v => congrArg Except.ok (List.append_assoc t u v)

@[simp] theorem nil_inTurn : ∀ b : Except TextFault Text, inTurn (.ok []) b = b
  | .error _ => rfl
  | .ok _ => rfl

@[simp] theorem inTurn_nil : ∀ a : Except TextFault Text, inTurn a (.ok []) = a
  | .error _ => rfl
  | .ok t => congrArg Except.ok (List.append_nil t)

variable (outside : Text → Except TextFault Text)

/-- What a tree means in a scope once its tokens are replaced. -/
def meaning (slots : Slots) (s : Scope) (m : Markup) : Except TextFault Text :=
  (m.withTexts slots.fill).evalWith outside s

/-- What a loop body means for the elements from an index on, one after the other. -/
def bodyMeaning (slots : Slots) (s : Scope) (body : Markup) : Nat → List Value → Except TextFault Text
  | _, [] => .ok []
  | index, item :: items =>
    inTurn (body.meaning outside slots (s.enter index item)) (bodyMeaning slots s body (index + 1) items)

variable {outside} {slots slots' : Slots} {s : Scope}

/-- Where nothing is held, the meaning is the evaluation. -/
theorem meaning_of_none_held (s : Scope) (m : Markup) : m.meaning outside [] s = m.evalWith outside s := by
  rw [meaning, withTexts_of_same Slots.fill_of_none_held]

/-- Texts held later do not change the meaning. -/
theorem meaning_grow (hs : slots <+: slots') {m : Markup} (hm : m.Formed slots.Held) (s : Scope) :
    m.meaning outside slots' s = m.meaning outside slots s := by
  rw [meaning, meaning, withTexts_congr (fun t ht => Slots.Held.fill_eq ht hs) hm]

theorem bodyMeaning_grow (hs : slots <+: slots') {body : Markup} (hb : body.Formed slots.Held) (s : Scope) :
    ∀ (index : Nat) (items : List Value),
      bodyMeaning outside slots' s body index items = bodyMeaning outside slots s body index items
  | _, [] => rfl
  | index, item :: items => by
    rw [bodyMeaning, bodyMeaning, meaning_grow hs hb, bodyMeaning_grow hs hb s (index + 1) items]

theorem meaning_done : done.meaning outside slots s = .ok [] := rfl

theorem meaning_text (t : Text) (rest : Markup) :
    (text t rest).meaning outside slots s = inTurn (.ok (slots.fill t)) (rest.meaning outside slots s) := rfl

theorem meaning_place (n : Text) (rest : Markup) :
    (place n rest).meaning outside slots s = inTurn (placeWith outside s n) (rest.meaning outside slots s) := rfl

theorem meaning_when (n : Text) (yes rest : Markup) : (when n yes rest).meaning outside slots s =
    inTurn (if s.holds n then yes.meaning outside slots s else .ok []) (rest.meaning outside slots s) := by
  rw [meaning, withTexts, evalWith]
  split <;> rfl

theorem meaning_choice (n : Text) (yes no rest : Markup) : (choice n yes no rest).meaning outside slots s =
    inTurn (if s.holds n then yes.meaning outside slots s else no.meaning outside slots s)
      (rest.meaning outside slots s) := by
  rw [meaning, withTexts, evalWith]
  split <;> rfl

theorem mapM_flatten (body : Markup) : ∀ (index : Nat) (items : List Value),
    List.flatten <$> (items.zipIdx index).mapM (fun x => body.meaning outside slots (s.enter x.2 x.1))
      = bodyMeaning outside slots s body index items
  | _, [] => rfl
  | index, item :: items => by
    rw [bodyMeaning, ← mapM_flatten body (index + 1) items]
    simp [inTurn, List.mapM_cons]

theorem meaning_each (n : Text) (body rest : Markup) : (each n body rest).meaning outside slots s =
    inTurn (bodyMeaning outside slots s body 0 ((s.lookup n).elements?.getD [])) (rest.meaning outside slots s) := by
  rw [← mapM_flatten, inTurn, bind_map_left]
  rfl

theorem meaning_append (b : Markup) : ∀ a : Markup, (a ++ b).meaning outside slots s =
    inTurn (a.meaning outside slots s) (b.meaning outside slots s)
  | done => by simp [meaning_done]
  | text t rest => by simp [meaning_text, meaning_append b rest, inTurn_assoc]
  | place n rest => by simp [meaning_place, meaning_append b rest, inTurn_assoc]
  | when n yes rest => by simp [meaning_when, meaning_append b rest, inTurn_assoc]
  | choice n yes no rest => by simp [meaning_choice, meaning_append b rest, inTurn_assoc]
  | each n body rest => by simp [meaning_each, meaning_append b rest, inTurn_assoc]

/-- A turn over conditionals keeps the meaning. -/
theorem meaning_choose (w : Bool) : ∀ m : Markup,
    (m.choose w s.holds).meaning outside slots s = m.meaning outside slots s
  | done => rfl
  | text t rest => by simp [choose, meaning_text, meaning_choose w rest]
  | place n rest => by simp [choose, meaning_place, meaning_choose w rest]
  | when n yes rest => by
    have hr := meaning_choose w rest
    cases w with
    | true => simp [choose, meaning_when, meaning_choose true yes, hr]
    | false => cases hh : s.holds n <;> simp [choose, meaning_when, meaning_append, hh, hr]
  | choice n yes no rest => by
    have hr := meaning_choose w rest
    cases w with
    | true => cases hh : s.holds n <;> simp [choose, meaning_choice, meaning_append, hh, hr]
    | false => simp [choose, meaning_choice, meaning_choose false yes, meaning_choose false no, hr]
  | each n body rest => by simp [choose, meaning_each, meaning_choose w rest]

theorem meaning_round (m : Markup) : (m.round s.holds).meaning outside slots s = m.meaning outside slots s := by
  rw [round, meaning_choose, meaning_choose]

end Markup

/-! ## What placeholders show -/

theorem shown?_reserved {metadata : Metadata} {s : Scope} {n : Text} (h : reservedNames.contains n = true) :
    s.shown? metadata n = metadata.get? n := by
  rw [Scope.shown?, if_pos h]

theorem shown?_far {metadata : Metadata} {s : Scope} {n : Text} (hr : reservedNames.contains n ≠ true)
    (hi : n ≠ indexName) (ht : ¬(n = thisName ∨ thisPoint.isPrefixOf n = true)) :
    s.shown? metadata n = s.fieldOrVariable? n := by
  rw [Scope.shown?, if_neg hr]
  cases hf : s.frames with
  | nil => simp [Scope.fieldOrVariable?, hf]
  | cons f frames => simp only [if_neg hi, if_neg ht]

theorem contains_reservedNames {n : Text} :
    reservedNames.contains n = true ↔ n = timestampName ∨ n = versionName ∨ n = sourceName := by
  simp [reservedNames]

theorem Metadata.get?_of_reserved (metadata : Metadata) {n : Text} (h : reservedNames.contains n = true) :
    ∃ v, metadata.get? n = some v := by
  rcases contains_reservedNames.1 h with rfl | rfl | rfl
  · exact ⟨_, rfl⟩
  · exact ⟨_, rfl⟩
  · exact ⟨_, rfl⟩

theorem Metadata.get?_of_not_reserved (metadata : Metadata) {n : Text} (h : reservedNames.contains n ≠ true) :
    metadata.get? n = none := by
  simp only [ne_eq, contains_reservedNames, not_or] at h
  rw [Metadata.get?, if_neg h.1, if_neg h.2.1, if_neg h.2.2]

/-- Outside all loops a placeholder is filled with what it shows there. -/
theorem placeholderValue?_eq (vars : Fields) (metadata : Metadata) (n : Text) :
    placeholderValue? vars metadata n = (Scope.outer vars).shown? metadata n := by
  by_cases h : reservedNames.contains n = true
  · obtain ⟨v, hv⟩ := metadata.get?_of_reserved h
    rw [placeholderValue?, shown?_reserved h, hv, Option.some_or]
  · rw [placeholderValue?, Scope.shown?, if_neg h, metadata.get?_of_not_reserved h, Option.none_or]
    rfl

theorem element?_reserved {s : Scope} {n : Text} (h : reservedNames.contains n = true) : s.element? n = none := by
  rw [Scope.element?, if_pos h]

/-- A name that is neither the element nor its index is answered by the innermost element with a field of the name. -/
theorem element?_far {s : Scope} {n : Text} (hr : reservedNames.contains n ≠ true) (hi : n ≠ indexName)
    (ht : ¬(n = thisName ∨ thisPoint.isPrefixOf n = true)) :
    s.element? n = s.frames.findSome? fun f => f.fields.get? n := by
  rw [Scope.element?, if_neg hr]
  cases hf : s.frames with
  | nil => rfl
  | cons f frames => simp only [if_neg hi, if_neg ht]

/-- What is shown is what an element answers, or else what is put in outside all loops. -/
theorem shown?_eq (metadata : Metadata) (s : Scope) (n : Text) :
    s.shown? metadata n = (s.element? n).or (placeholderValue? s.vars metadata n) := by
  by_cases hr : reservedNames.contains n = true
  · rw [element?_reserved hr, Option.none_or, placeholderValue?_eq, shown?_reserved hr, shown?_reserved hr]
  · rw [Scope.shown?, Scope.element?, placeholderValue?, if_neg hr, if_neg hr, metadata.get?_of_not_reserved hr,
      Option.none_or]
    cases hf : s.frames with
    | nil => rfl
    | cons f frames =>
      simp only
      split
      · rfl
      · split
        · rfl
        · rw [Scope.fieldOrVariable?, hf]

theorem printed_index {n : Nat} (h : n < digitBound) : (Value.int n).printed = .ok (Text.ofNat n) := by
  have hlen : (Text.ofNat n).length ≤ digitLimit := Text.length_ofNat_le h
  simp [Value.printed, Value.digits, Value.digits?, hlen]

namespace Markup

/-- What a placeholder means that no element answers for. -/
def outsideText (vars : Fields) (metadata : Metadata) (n : Text) : Except TextFault Text :=
  substituteOne vars metadata ⟨n, placeText n⟩

theorem evalPlace_eq_placeWith (metadata : Metadata) (s : Scope) (n : Text) :
    evalPlace metadata s n = placeWith (outsideText s.vars metadata) s n := by
  rw [evalPlace, placeWith, shown?_eq]
  cases s.element? n <;> rfl

/-- Outside all loops no element answers. -/
theorem placeWith_outer (outside : Text → Except TextFault Text) (vars : Fields) (n : Text) :
    placeWith outside (.outer vars) n = outside n := by
  have hnone : (Scope.outer vars).element? n = none := by
    rw [Scope.element?]
    split <;> rfl
  rw [placeWith, hnone]

/-- Evaluating is unrolling with the placeholders filled that no element answers for. -/
theorem eval_eq_evalWith (metadata : Metadata) (m : Markup) (s : Scope) :
    m.eval metadata s = m.evalWith (outsideText s.vars metadata) s := by
  induction m generalizing s with
  | done => rfl
  | text t rest ih => rw [eval, evalWith, ih]
  | place n rest ih => rw [eval, evalWith, ih, evalPlace_eq_placeWith]
  | when n yes rest ihy ih => rw [eval, evalWith, ih, ihy]
  | choice n yes no rest ihy ihn ih => rw [eval, evalWith, ih, ihy, ihn]
  | each n body rest ihb ih =>
    have hbody : ∀ index item, body.eval metadata (s.enter index item)
        = body.evalWith (outsideText s.vars metadata) (s.enter index item) := fun index item => ihb _
    rw [eval, evalWith, ih]
    simp only [hbody]

/-- An element answers a name with what the name means inside the loop, and a name that it does not answer means the
same outside. -/
theorem leaves_answer?_meaning (outside : Text → Except TextFault Text) (s : Scope) {frame : Frame}
    (hi : frame.index < digitBound) (n : Text) (l : Ledger) :
    ((s.enter frame.index frame.item).answer? frame n).Leaves l fun o l' => match o with
      | some t => placeWith outside (s.enter frame.index frame.item) n = .ok (l'.slots.fill t)
      | none => placeWith outside s n = placeWith outside (s.enter frame.index frame.item) n := by
  have hheld : ∀ v : Value, (s.enter frame.index frame.item).element? n = some v →
      (some <$> Resolve.holdValue v).Leaves l fun o l' => match o with
        | some t => placeWith outside (s.enter frame.index frame.item) n = .ok (l'.slots.fill t)
        | none => placeWith outside s n = placeWith outside (s.enter frame.index frame.item) n := by
    intro v hv
    refine (Resolve.leaves_holdValue v l).map ?_
    rintro _ l' ⟨u, hu, rfl, hslots⟩
    have hlast : l.slots.length < l'.slots.length := by simp [hslots]
    have hfill : l'.slots.fill (slotToken l.slots.length) = u := by
      rw [Slots.fill_slotToken hlast]
      simp [hslots]
    simp only [placeWith, hv, hu, hfill]
  unfold Scope.answer?
  split
  · rename_i hr
    exact .pure (by simp only [placeWith, element?_reserved hr])
  · rename_i hr
    split
    · rename_i hindex
      refine .pure ?_
      have hshown : (s.enter frame.index frame.item).element? n = some (.int frame.index) := by
        simp only [Scope.element?, if_neg hr, Scope.enter, if_pos hindex]
      have hfill := Slots.fill_slotFree (slotFree_of_plain (plain_ofNat frame.index)) l.slots
      simp only [placeWith, hshown, printed_index hi, hfill]
    · rename_i hindex
      split
      · rename_i hthis
        refine hheld _ ?_
        simp only [Scope.element?, if_neg hr, Scope.enter, if_neg hindex, if_pos hthis]
      · rename_i hthis
        have hinner : (s.enter frame.index frame.item).element? n = (frame.fields.get? n).or (s.element? n) := by
          rw [element?_far hr hindex hthis, element?_far hr hindex hthis]
          cases hf : frame.fields.get? n <;> simp [Scope.enter, hf]
        split
        · rename_i v hv
          exact hheld v (by simp [hinner, hv])
        · rename_i hnone
          exact .pure (by simp [placeWith, hinner, hnone])

/-! ## Steps that keep the meaning -/

section Steps

variable {outside : Text → Except TextFault Text}

/-- The resolution holds texts besides those held, and the tree that it leaves is formed and has a meaning in the
scope. -/
def Means (outside : Text → Except TextFault Text) (s : Scope) (x : Resolve Markup) (l : Ledger)
    (doc : Except TextFault Text) : Prop :=
  x.Leaves l fun m l' => l.slots <+: l'.slots ∧ m.Formed l'.slots.Held ∧ m.meaning outside l'.slots s = doc

variable {s s' : Scope} {l : Ledger} {doc doc' : Except TextFault Text}

theorem Means.pure {m : Markup} (hm : m.Formed l.slots.Held) (h : m.meaning outside l.slots s = doc) :
    Means outside s (Pure.pure m) l doc :=
  Resolve.Leaves.pure ⟨List.prefix_refl _, hm, h⟩

theorem Means.bind {x : Resolve Markup} {f : Markup → Resolve Markup} (hx : Means outside s x l doc)
    (hf : ∀ m l', l.slots <+: l'.slots → m.Formed l'.slots.Held → m.meaning outside l'.slots s = doc →
      Means outside s' (f m) l' doc') : Means outside s' (x >>= f) l doc' :=
  Resolve.Leaves.bind_grow hx fun m l' hg ⟨hm, he⟩ => hf m l' hg hm he

theorem Means.answered {a : Resolve (Option Text)} {f : Option Text → Resolve Markup}
    {mid : Option Text → Ledger → Prop}
    (ha : a.Leaves l fun o l' => l.slots <+: l'.slots ∧ mid o l')
    (hf : ∀ o l', l.slots <+: l'.slots → mid o l' → Means outside s (f o) l' doc) : Means outside s (a >>= f) l doc :=
  Resolve.Leaves.bind_grow ha hf

/-- Filling a flat tree with the answers of an element keeps what it means inside the loop. -/
theorem means_fillWith (outside : Text → Except TextFault Text) (s : Scope) {frame : Frame}
    (hi : frame.index < digitBound) :
    ∀ (m : Markup) (l : Ledger), m.Flat → m.Formed l.slots.Held →
      Means outside s (m.fillWith ((s.enter frame.index frame.item).answer? frame)) l
        (m.meaning outside l.slots (s.enter frame.index frame.item))
  | done, _, _, _ => .pure (m := done) trivial rfl
  | text t rest, l, hflat, ⟨ht, hr⟩ =>
    (means_fillWith outside s hi rest l hflat hr).bind fun m l' hg hm he =>
      .pure (m := text t m) ⟨Slots.admits_held.grow hg ht, hm⟩ (by rw [meaning_text, meaning_text, he, ht.fill_eq hg])
  | place n rest, l, hflat, ⟨hn, hels, hr⟩ => by
    have hanswer := (leaves_answer? Slots.admits_held (s.enter frame.index frame.item) frame n l).and
      (leaves_answer?_meaning outside s hi n l)
    refine Means.answered (hanswer.mono fun o l' h => And.intro h.1.1 (And.intro h.1.2 h.2))
      fun o l₁ hg ⟨ho, hmean⟩ => ?_
    refine (means_fillWith outside s hi rest l₁ hflat (hr.grow Slots.admits_held hg)).bind fun m l' hg' hm he => ?_
    have hrest : m.meaning outside l'.slots s = rest.meaning outside l.slots (s.enter frame.index frame.item) := by
      rw [he, meaning_grow hg hr]
    refine .pure (formed_filled hn hels hm fun t ht => Slots.admits_held.grow hg' (ho t ht)) ?_
    cases o with
    | some t => rw [filled, meaning_text, meaning_place, hrest, hmean, (ho t rfl).fill_eq hg']
    | none => rw [filled, meaning_place, meaning_place, hrest, hmean]

/-! ## Loops -/

variable {p : Value → Prop} {onTree : Scope → Markup → Resolve Markup}

/-- A loop body that resolves to flat trees, with its meaning kept, in all scopes whose values meet a condition. -/
def Settles (outside : Text → Except TextFault Text) (p : Value → Prop) (onTree : Scope → Markup → Resolve Markup)
    (body : Markup) : Prop :=
  ∀ s l, s.Within p → body.Formed l.slots.Held → (onTree s body).Ensures Flat ∧
    Means outside s (onTree s body) l (body.meaning outside l.slots s)

theorem means_element {body : Markup} (hb : Settles outside p onTree body) (hs : s.Within p) (frame : Frame)
    (hf : p frame.item) (hi : frame.index < digitBound) (l : Ledger) (hform : body.Formed l.slots.Held) :
    Means outside s (resolveElement onTree s body frame) l
      (body.meaning outside l.slots (s.enter frame.index frame.item)) := by
  obtain ⟨hflat, hmeans⟩ := hb _ l (hs.enter frame.index hf) hform
  refine Resolve.Leaves.bind (hmeans.and (hflat l)) fun m l' ⟨⟨hg, hm, he⟩, hmflat⟩ => ?_
  refine (means_fillWith outside s hi m l' hmflat hm).mono fun m' l'' ⟨hg', hm', he'⟩ => ?_
  exact ⟨hg.trans hg', hm', by rw [he', he]⟩

theorem means_elements {body : Markup} (hb : Settles outside p onTree body) (hs : s.Within p) :
    ∀ (index : Nat) (items : List Value) (l : Ledger), (∀ item ∈ items, p item) →
      index + items.length ≤ digitBound → body.Formed l.slots.Held →
      Means outside s (resolveElements onTree s body index items) l (bodyMeaning outside l.slots s body index items)
  | _, [], _, _, _, _ => .pure (m := done) trivial rfl
  | index, item :: items, l, hitems, hlen, hform => by
    rw [List.length_cons] at hlen
    refine (means_element hb hs ⟨index, item⟩ (hitems item (by simp)) (by simp only; omega) l hform).bind
      fun m l₁ hg hm he => ?_
    refine (means_elements hb hs (index + 1) items l₁ (fun x hx => hitems x (by simp [hx])) (by omega)
      (hform.grow Slots.admits_held hg)).bind fun m' l₂ hg' hm' he' => ?_
    refine .pure ((hm.grow Slots.admits_held hg').append hm') ?_
    rw [meaning_append, meaning_grow hg' hm, he, he', bodyMeaning_grow hg hform, bodyMeaning]

/-- The sequences among some values have no more elements than numbers of the digit limit. -/
def Countable (p : Value → Prop) : Prop :=
  ∀ v items, p v → v.elements? = some items → items.length ≤ digitBound

variable (hp : Value.Hereditary p) (hc : Countable p)

include hp hc

theorem means_loop {body : Markup} (hb : Settles outside p onTree body) (hs : s.Within p) (n : Text) (l : Ledger)
    (hform : body.Formed l.slots.Held) :
    Means outside s (resolveLoop onTree s n body) l ((each n body done).meaning outside l.slots s) := by
  rw [meaning_each, meaning_done, inTurn_nil, resolveLoop]
  cases hitems : (s.lookup n).elements? with
  | none => exact .pure (m := done) trivial rfl
  | some items =>
    refine means_elements hb hs 0 items l (hs.elements hp hitems) ?_ hform
    rcases hs.lookup hp n with hv | ⟨k, hk⟩
    · have := hc _ _ hv hitems
      omega
    · rw [hk] at hitems
      cases hitems

omit hp hc in
theorem means_expandWith {r : Markup → Prop} {f : Text → Markup → Resolve Markup}
    (hf : ∀ n body l, r body → body.Formed l.slots.Held →
      Means outside s (f n body) l ((each n body done).meaning outside l.slots s)) :
    ∀ (m : Markup) (l : Ledger), m.Formed l.slots.Held → m.Bodies r →
      Means outside s (m.expandWith f) l (m.meaning outside l.slots s)
  | done, _, _, _ => .pure (m := done) trivial rfl
  | text t rest, l, ⟨ht, hr⟩, hbr =>
    (means_expandWith hf rest l hr hbr).bind fun m l' hg hm he =>
      .pure (m := text t m) ⟨Slots.admits_held.grow hg ht, hm⟩ (by rw [meaning_text, meaning_text, he, ht.fill_eq hg])
  | place n rest, l, ⟨hn, hels, hr⟩, hbr =>
    (means_expandWith hf rest l hr hbr).bind fun m l' hg hm he =>
      .pure (m := place n m) ⟨hn, hels, hm⟩ (by rw [meaning_place, meaning_place, he])
  | when n yes rest, l, ⟨hn, hy, hr⟩, ⟨hby, hbr⟩ =>
    (means_expandWith hf yes l hy hby).bind fun y l₁ hg hy' hey =>
      (means_expandWith hf rest l₁ (hr.grow Slots.admits_held hg) hbr).bind fun m l₂ hg' hm he =>
        .pure (m := when n y m) ⟨hn, hy'.grow Slots.admits_held hg', hm⟩ (by
          rw [meaning_when, meaning_when, meaning_grow hg' hy', hey, he, meaning_grow hg hr])
  | choice n yes no rest, l, ⟨hn, hy, hno, hr⟩, ⟨hby, hbno, hbr⟩ =>
    (means_expandWith hf yes l hy hby).bind fun y l₁ hg hy' hey =>
      (means_expandWith hf no l₁ (hno.grow Slots.admits_held hg) hbno).bind fun o l₂ hg₂ hno' heno =>
        (means_expandWith hf rest l₂ (hr.grow Slots.admits_held (hg.trans hg₂)) hbr).bind fun m l₃ hg₃ hm he =>
          .pure (m := choice n y o m)
            ⟨hn, hy'.grow Slots.admits_held (hg₂.trans hg₃), hno'.grow Slots.admits_held hg₃, hm⟩ (by
              rw [meaning_choice, meaning_choice, meaning_grow (hg₂.trans hg₃) hy', hey, meaning_grow hg₃ hno', heno,
                meaning_grow hg hno, he, meaning_grow (hg.trans hg₂) hr])
  | each n body rest, l, ⟨hn, hb, hr⟩, ⟨hbb, hbr⟩ =>
    (hf n body l hbb hb).bind fun b l₁ hg hb' heb =>
      (means_expandWith hf rest l₁ (hr.grow Slots.admits_held hg) hbr).bind fun m l₂ hg' hm he =>
        .pure ((hb'.grow Slots.admits_held hg').append hm) (by
          have hsplit : each n body rest = each n body done ++ rest := rfl
          rw [meaning_append, meaning_grow hg' hb', heb, he, meaning_grow hg hr, hsplit, meaning_append])

omit hp hc in
theorem means_settle {q : Markup → Prop} {step : Markup → Resolve Markup}
    (h : ∀ m l, q m → m.Formed l.slots.Held → (step m).Ensures q ∧
      Means outside s (step m) l (m.meaning outside l.slots s)) :
    ∀ (budget : Nat) (m : Markup) (l : Ledger), q m → m.Formed l.slots.Held →
      Means outside s (settle step budget m) l (m.meaning outside l.slots s)
  | 0, m, l, _, hm => by
    intro m' l' hrun
    cases hrun
    exact ⟨List.prefix_refl _, hm, rfl⟩
  | budget + 1, m, l, hq, hm => by
    obtain ⟨hensures, hmeans⟩ := h m l hq hm
    refine Resolve.Leaves.bind (hmeans.and (hensures l)) fun m' l' ⟨⟨hg, hm', he⟩, hq'⟩ => ?_
    split
    · exact .pure ⟨hg, hm', he⟩
    · exact (means_settle h budget m' l' hq' hm').mono fun m'' l'' ⟨hg', hm'', he'⟩ =>
        ⟨hg.trans hg', hm'', he'.trans he⟩

/-- **Resolving keeps the meaning** of a tree with a budget that is enough for every loop body in it. -/
theorem means_resolve {budget : Nat} (hb : 0 < budget) : ∀ (depth : Nat) (s : Scope) (m : Markup) (l : Ledger),
    s.Within p → m.bodyDepth ≤ budget → m.Formed l.slots.Held →
      Means outside s (resolve budget depth s m) l (m.meaning outside l.slots s)
  | 0, _, _, _, _, _, _ => fun _ _ hrun => by cases hrun
  | depth + 1, s, m, l, hs, hd, hm => by
    refine means_settle (q := Bodies (·.depth ≤ budget)) (fun m l hbodies hm => ⟨?_, ?_⟩) budget m l
      (bodies_depth hd) hm
    · exact fun l => (ensures_loopFree_pass (ensures_loopFree_resolve hb depth) s m l).mono fun _ _ h => h.bodies
    · rw [← meaning_round]
      refine means_expandWith (fun n body l hdepth hform => means_loop hp hc ?_ hs n l hform) _ l (hm.round _)
        (hbodies.round _)
      intro s' l' hs' hform'
      exact ⟨ensures_flat_resolve hb depth s' body (hform'.mono fun _ ht => ht.braceFree) hdepth,
        means_resolve hb depth s' body l' hs' ((depth_le_iff body).1 hdepth).2 hform'⟩

/-- A loop body that the budget is enough for settles. -/
theorem settles_resolve {budget : Nat} (hb : 0 < budget) (depth : Nat) {body : Markup} (hd : body.depth ≤ budget) :
    Settles outside p (resolve budget depth) body := fun s l hs hm =>
  ⟨ensures_flat_resolve hb depth s body (hm.mono fun _ ht => ht.braceFree) hd,
    means_resolve hp hc hb depth s body l hs ((depth_le_iff body).1 hd).2 hm⟩

end Steps

end Markup

end Stencil
