import Stencil.Proofs.Directive.Unrolling

/-!
# Tags that are never closed, and markers that split nothing

* **Unclosed tags** stay as they are and block nothing: a template of several parts with such tags between them resolves
  to what the parts resolve to (`unclosed_tags_stay`). The texts of the parts hold no slot characters. A text that reads
  like a token is taken for one if another part holds a text (`unclosed_tokens_meet`).
* **Further markers** in the second branch of a conditional (`Markup.Parted`) stay as they are, unless the conditional
  stands in one with a single branch or in a loop (`further_markers_iff`): the branch that is put in the place of the
  conditional brings them to the tag around it, whose branches they then separate.
-/

namespace Stencil

open Markup
open Text (BraceFree)

/-! ## Trees one after the other -/

namespace Markup

theorem unrolled_append (a b : Markup) (s : Scope) : (a ++ b).unrolled s = inTurn (a.unrolled s) (b.unrolled s) := by
  have h : (a ++ b).meaning (fun name => .ok (placeText name)) [] s = _ := meaning_append b a
  simpa only [meaning_of_none_held, unrolled] using h

theorem bodyDepth_append (b : Markup) : ∀ a : Markup, (a ++ b).bodyDepth = max a.bodyDepth b.bodyDepth
  | done => by simp [bodyDepth]
  | text _ rest => bodyDepth_append b rest
  | place _ rest => bodyDepth_append b rest
  | when _ yes rest => by simp only [when_append, bodyDepth, bodyDepth_append b rest, Nat.max_assoc]
  | choice _ yes no rest => by simp only [choice_append, bodyDepth, bodyDepth_append b rest, Nat.max_assoc]
  | each _ body rest => by simp only [each_append, bodyDepth, bodyDepth_append b rest, Nat.max_assoc]

theorem depth_append_le {a b : Markup} {n : Nat} (ha : a.depth ≤ n) (hb : b.depth ≤ n) : (a ++ b).depth ≤ n := by
  rw [depth_le_iff] at ha hb ⊢
  rw [outerDepth_append, bodyDepth_append]
  exact ⟨Nat.max_le.2 ⟨ha.1, hb.1⟩, Nat.max_le.2 ⟨ha.2, hb.2⟩⟩

end Markup

/-! ## Unclosed tags -/

/-- An opening tag that is never closed, and the template between it and the next one. -/
structure Unclosed where
  kind : TagKind
  name : Text
  after : Markup

namespace Unclosed

/-- A template and others after it, each after its unclosed tag, given what is written for the templates. -/
def write (f : Markup → Text) (first : Markup) (parts : List Unclosed) : Text :=
  f first ++ parts.flatMap fun part => openText part.kind part.name ++ f part.after

/-- The templates and the unclosed tags as one tree. -/
def tree (first : Markup) : List Unclosed → Markup
  | [] => first
  | part :: parts => first ++ text (openText part.kind part.name) (tree part.after parts)

variable {first : Markup} {parts : List Unclosed}

theorem print_tree : ∀ (parts : List Unclosed) (first : Markup), (tree first parts).print = write print first parts
  | [], first => by simp [tree, write]
  | part :: parts, first => by
    rw [tree, print_append, print, print_tree parts part.after]
    simp [write]

theorem loose_tree : ∀ {parts : List Unclosed} {first : Markup}, first.WellFormed →
    (∀ part ∈ parts, IsName part.name ∧ part.after.WellFormed) → (tree first parts).Loose Plain .outside
  | [], first, hfirst, _ => .formed ((formed_plain_iff first).2 hfirst)
  | part :: parts, first, hfirst, hparts => by
    obtain ⟨hn, hafter⟩ := hparts part (by simp)
    have hrest : (tree part.after parts).Loose Plain .outside :=
      loose_tree hafter fun q hq => hparts q (by simp [hq])
    have htag : (text (openText part.kind part.name) done).Loose Plain .outside := .stray (.inr ⟨_, _, hn, rfl⟩)
    exact .append (.formed ((formed_plain_iff first).2 hfirst)) (.append htag hrest)

theorem depth_tree {n : Nat} : ∀ {parts : List Unclosed} {first : Markup}, first.depth ≤ n →
    (∀ part ∈ parts, part.after.depth ≤ n) → (tree first parts).depth ≤ n
  | [], _, hfirst, _ => hfirst
  | part :: parts, first, hfirst, hparts => by
    have hrest : (text (openText part.kind part.name) (tree part.after parts)).depth ≤ n :=
      depth_tree (hparts part (by simp)) fun q hq => hparts q (by simp [hq])
    exact depth_append_le hfirst hrest

/-- The tags stay between what the templates are unrolled to. -/
theorem unrolled_tree {s : Scope} {out : Markup → Text} : ∀ {parts : List Unclosed} {first : Markup},
    first.unrolled s = .ok (out first) → (∀ part ∈ parts, part.after.unrolled s = .ok (out part.after)) →
    (tree first parts).unrolled s = .ok (write out first parts)
  | [], first, hfirst, _ => by simpa [tree, write] using hfirst
  | part :: parts, first, hfirst, hparts => by
    have hrest : (tree part.after parts).unrolled s = .ok (write out part.after parts) :=
      unrolled_tree (hparts part (by simp)) fun q hq => hparts q (by simp [hq])
    have htag : (text (openText part.kind part.name) (tree part.after parts)).unrolled s
        = inTurn (.ok (openText part.kind part.name)) ((tree part.after parts).unrolled s) := rfl
    have hwrite : write out first (part :: parts)
        = out first ++ (openText part.kind part.name ++ write out part.after parts) := by simp [write]
    rw [tree, unrolled_append, hfirst, htag, hrest, hwrite]
    rfl

end Unclosed

/-- **Unclosed tags stay and block nothing.** With enough passes for each of the templates, the whole resolves to what
the templates resolve to, with the tags between them as they are. -/
theorem unclosed_tags_stay {first : Markup} {parts : List Unclosed} (budget : PassBudget) {vars : Fields}
    (hnames : ∀ part ∈ parts, IsName part.name)
    (hparts : ∀ m ∈ first :: parts.map Unclosed.after, m.WellFormed ∧ m.depth ≤ budget.val)
    (hvars : ∀ name v, vars.get? name = some v → v.Printable)
    (hfew : ∀ m ∈ first :: parts.map Unclosed.after, HoldsFew budget.val m.print vars)
    (hwhole : HoldsFew budget.val (Unclosed.write print first parts) vars) :
    ∃ out : Markup → Text, (∀ m ∈ first :: parts.map Unclosed.after,
        (resolveDirectives budget.val m.print vars).alone = .ok (out m)) ∧
      (resolveDirectives budget.val (Unclosed.write print first parts) vars).alone
        = .ok (Unclosed.write out first parts) := by
  have hout : ∀ m ∈ first :: parts.map Unclosed.after, ∃ t, m.unrolled (.outer vars) = .ok t ∧
      (resolveDirectives budget.val m.print vars).alone = .ok t := fun m hm =>
    alone_eq_unrolled (.formed ((formed_plain_iff m).2 (hparts m hm).1)) budget (hparts m hm).2 hvars (hfew m hm)
  let out : Markup → Text := fun m => (m.unrolled (.outer vars)).toOption.getD []
  have heach : ∀ m ∈ first :: parts.map Unclosed.after, m.unrolled (.outer vars) = .ok (out m) := by
    intro m hm
    obtain ⟨t, ht, -⟩ := hout m hm
    simp only [out, ht, Except.toOption, Option.getD_some]
  have hafter : ∀ part ∈ parts, part.after ∈ first :: parts.map Unclosed.after := fun part hpart =>
    List.mem_cons_of_mem _ (List.mem_map_of_mem hpart)
  have hfirst : first ∈ first :: parts.map Unclosed.after := List.mem_cons_self
  refine ⟨out, fun m hm => ?_, ?_⟩
  · obtain ⟨t, ht, halone⟩ := hout m hm
    rw [halone, Except.ok.inj (ht.symm.trans (heach m hm))]
  · have hloose := Unclosed.loose_tree (hparts first hfirst).1 fun part hpart =>
      ⟨hnames part hpart, (hparts _ (hafter part hpart)).1⟩
    have hdepth := Unclosed.depth_tree (hparts first hfirst).2 fun part hpart => (hparts _ (hafter part hpart)).2
    rw [← Unclosed.print_tree] at hwhole ⊢
    obtain ⟨t, ht, halone⟩ := alone_eq_unrolled hloose budget hdepth hvars hwhole
    have htree := Unclosed.unrolled_tree (heach first hfirst) fun part hpart => heach _ (hafter part hpart)
    rw [halone, Except.ok.inj (ht.symm.trans htree)]

/-- A loop over names. -/
def eachName : Markup := forEach "xs" (slot "this")

def nameVariables : Fields := [(.str ['v'], .bool true), (.str "xs".text, .list [.str "Ada".text])]

theorem printable_nameVariables (name : Text) (v : Value) (h : nameVariables.get? name = some v) : v.Printable := by
  simp only [nameVariables, Fields.get?] at h
  split at h
  · cases h
    exact Value.printable_of_printed rfl rfl ⟨_, rfl⟩
  · split at h
    · cases h
      refine Value.printable_of_parts ⟨_, rfl⟩ (fun items hi => ?_) fun _ _ _ hf => by cases hf
      cases hi
      refine ⟨digitBound_pos, fun x hx => ?_⟩
      rw [List.mem_singleton.1 hx]
      exact Value.printable_of_printed rfl rfl ⟨_, rfl⟩
    · cases h

/-- A resolution that is known to hold at most one text. -/
theorem holdsFew_of_run {budget : Nat} {t resolved : Text} {vars : Fields} {ledger : Ledger}
    (h : (resolveDirectives budget t vars).run .empty = .ok resolved ledger) (hone : ledger.slots.length ≤ 1) :
    HoldsFew budget t vars := by
  intro resolved' ledger' h'
  cases h.symm.trans h'
  exact Nat.le_trans hone digitBound_pos

/-- A title, before an unclosed loop and the loop over names, and before an unclosed conditional and a closed one. -/
def salutation : Markup := ifElse "v" (lit "Dr ") (slot "t")

def unclosedNames : List Unclosed := [⟨.loop, "xs".text, eachName⟩, ⟨.conditional, ['v'], onlyIf "v" (lit "!")⟩]

set_option maxRecDepth 1024 in
theorem unclosedNames_stay : (∃ out : Markup → Text,
    (∀ m ∈ salutation :: unclosedNames.map Unclosed.after,
      (resolveDirectives 1 m.print nameVariables).alone = .ok (out m)) ∧
    (resolveDirectives 1 (Unclosed.write print salutation unclosedNames) nameVariables).alone
      = .ok (Unclosed.write out salutation unclosedNames)) ∧
    (resolveDirectives 1 (Unclosed.write print salutation unclosedNames) nameVariables).alone
      = .ok ("Dr ".text ++ openText .loop "xs".text ++ "Ada".text ++ openText .conditional ['v'] ++ "!".text) := by
  refine ⟨unclosed_tags_stay ⟨1, by decide⟩ ?_ ?_ printable_nameVariables ?_ (holdsFew_of_run rfl (by decide)), rfl⟩
  · simp only [unclosedNames, List.forall_mem_cons]
    exact ⟨by decide, by decide, by simp⟩
  · simp only [unclosedNames, List.map_cons, List.forall_mem_cons]
    have hfirst : salutation.Formed Plain :=
      ⟨by decide, ⟨by decide, trivial⟩, ⟨by decide, by decide, trivial⟩, trivial⟩
    have hlast : (onlyIf "v" (lit "!")).Formed Plain := ⟨by decide, ⟨by decide, trivial⟩, trivial⟩
    refine ⟨⟨(formed_plain_iff _).1 hfirst, by decide⟩, ⟨?_, by decide⟩, ⟨(formed_plain_iff _).1 hlast, by decide⟩,
      by simp⟩
    exact ⟨by decide, ⟨by decide, by decide, trivial⟩, trivial⟩
  · simp only [unclosedNames, List.map_cons, List.forall_mem_cons]
    exact ⟨holdsFew_of_run rfl (by decide), holdsFew_of_run rfl (by decide), holdsFew_of_run rfl (by decide), by simp⟩

/-- A text that reads like the token of the first text held. -/
def tokenLike : Markup := text (slotToken 0) done

set_option maxRecDepth 1024 in
/-- A part whose text reads like a token is not resolved as it is alone: the text that another part holds is put in its
place. -/
theorem unclosed_tokens_meet : tokenLike.Formed BraceFree ∧ eachName.WellFormed ∧ IsName ['v'] ∧
    (resolveDirectives 1 tokenLike.print nameVariables).alone = .ok (slotToken 0) ∧
    (resolveDirectives 1 eachName.print nameVariables).alone = .ok "Ada".text ∧
    (resolveDirectives 1 (Unclosed.write print tokenLike [⟨.conditional, ['v'], eachName⟩]) nameVariables).alone
      = .ok ("Ada".text ++ openText .conditional ['v'] ++ "Ada".text) ∧
    "Ada".text ++ openText .conditional ['v'] ++ "Ada".text
      ≠ slotToken 0 ++ openText .conditional ['v'] ++ "Ada".text :=
  ⟨⟨braceFree_slotToken 0, trivial⟩, ⟨by decide, ⟨by decide, by decide, trivial⟩, trivial⟩, by decide, rfl, rfl, rfl,
    by decide⟩

/-! ## Further markers between branches -/

/-- Well-formed, but for further markers between branches in the second branches of conditionals. The flags tell whether
conditionals that have them may stand in conditionals with one branch, and in loops, and whether the tree is a second
branch, so that the markers may stand in it. -/
def Markup.Parted (inWhen inLoop : Bool) : Bool → Markup → Prop
  | _, done => True
  | second, text t rest => (Plain t ∨ second = true ∧ t = elseText) ∧ rest.Parted inWhen inLoop second
  | second, place n rest => IsName n ∧ n ≠ elseName ∧ rest.Parted inWhen inLoop second
  | second, when n yes rest =>
    IsName n ∧ yes.Parted inWhen inLoop false ∧ (inWhen = false → yes.WellFormed) ∧ rest.Parted inWhen inLoop second
  | second, choice n yes no rest => IsName n ∧ yes.Parted inWhen inLoop false ∧ no.Parted inWhen inLoop true ∧
    rest.Parted inWhen inLoop second
  | second, each n body rest =>
    IsName n ∧ body.Parted inWhen inLoop false ∧ (inLoop = false → body.WellFormed) ∧ rest.Parted inWhen inLoop second

/-- Where the conditionals with further markers stand in no conditional with one branch and in no loop, the markers are
loose. -/
theorem Markup.Parted.loose {m : Markup} : ∀ {second : Bool}, m.Parted false false second →
    m.Loose Plain (if second then .second else .first) := by
  induction m with
  | done => exact fun _ => .formed trivial
  | text t rest ih =>
    rintro second ⟨ht, hr⟩
    refine .append (a := text t done) ?_ (ih hr)
    obtain ht | ⟨rfl, rfl⟩ := ht
    · exact .formed ⟨ht, trivial⟩
    · exact .stray rfl
  | place n rest ih =>
    rintro second ⟨hn, he, hr⟩
    exact .append (a := place n done) (.formed ⟨hn, he, trivial⟩) (ih hr)
  | when n yes rest _ ih =>
    rintro second ⟨hn, -, hy, hr⟩
    exact .append (a := when n yes done) (.formed ⟨hn, (formed_plain_iff yes).2 (hy rfl), trivial⟩) (ih hr)
  | choice n yes no rest ihy ihno ih =>
    rintro second ⟨hn, hy, hno, hr⟩
    exact .append (a := choice n yes no done) (.choice hn (ihy hy) (ihno hno)) (ih hr)
  | each n body rest _ ih =>
    rintro second ⟨hn, -, hb, hr⟩
    exact .append (a := each n body done) (.formed ⟨hn, (formed_plain_iff body).2 (hb rfl), trivial⟩) (ih hr)

/-- A conditional with a further marker, whose name is not bound. -/
def parted : Markup := ifElse "w" (lit "x") (lit "y" ++ text elseText (lit "z"))

/-- It stands in a conditional with one branch. -/
def partedWhen : Markup := onlyIf "v" (parted ++ lit "u")

/-- It stands in a loop, which stands in two conditionals with two branches. -/
def partedLoop : Markup := ifElse "v" (ifElse "v" (forEach "xs" parted) (lit "u")) done

set_option maxRecDepth 1024 in
/-- The branch brings its marker to the conditional around it, which then has two branches. -/
theorem alone_partedWhen : (resolveDirectives 2 partedWhen.print nameVariables).alone = .ok ['y'] ∧
    HoldsFew 2 partedWhen.print nameVariables :=
  ⟨rfl, holdsFew_of_run rfl (by decide)⟩

set_option maxRecDepth 1024 in
/-- The loop is expanded in the first pass, while one conditional around it waits for the second one. -/
theorem alone_partedLoop : (resolveDirectives 2 partedLoop.print nameVariables).alone = .ok ['y'] ∧
    HoldsFew 2 partedLoop.print nameVariables :=
  ⟨rfl, holdsFew_of_run rfl (by decide)⟩

/-- **Where further markers stay as they are**, with every sufficient budget: exactly in conditionals that stand in no
conditional with one branch and in no loop. There a conditional that holds is what comes before its first marker, and
one that does not hold is what comes after it, further markers included, whatever conditionals are around it. -/
theorem further_markers_iff (inWhen inLoop : Bool) :
    (∀ (m : Markup) (budget : PassBudget) (vars : Fields), m.Parted inWhen inLoop false → m.depth ≤ budget.val →
      (∀ name v, vars.get? name = some v → v.Printable) → HoldsFew budget.val m.print vars →
      ∃ t, m.unrolled (.outer vars) = .ok t ∧ (resolveDirectives budget.val m.print vars).alone = .ok t) ↔
    inWhen = false ∧ inLoop = false := by
  constructor
  · intro h
    have hparted : parted.Parted inWhen inLoop false :=
      ⟨by decide, ⟨.inl (by decide), trivial⟩, ⟨.inl (by decide), .inr ⟨rfl, rfl⟩, .inl (by decide), trivial⟩, trivial⟩
    have hrefute : ∀ {m : Markup} {u : Text}, m.Parted inWhen inLoop false → m.depth ≤ 2 →
        m.unrolled (.outer nameVariables) = .ok u → u ≠ [Point.char 'y'] →
        ¬((resolveDirectives 2 m.print nameVariables).alone = .ok ['y'] ∧ HoldsFew 2 m.print nameVariables) := by
      rintro m u hm hd hu hne ⟨halone, hfew⟩
      obtain ⟨t, ht, halone'⟩ := h m ⟨2, by decide⟩ nameVariables hm hd printable_nameVariables hfew
      rw [hu] at ht
      rw [halone] at halone'
      exact hne ((Except.ok.inj ht).trans (Except.ok.inj halone').symm)
    refine ⟨Bool.eq_false_iff.2 ?_, Bool.eq_false_iff.2 ?_⟩
    · rintro rfl
      refine hrefute (u := "y".text ++ elseText ++ "zu".text) ?_ (by decide) rfl (by decide) alone_partedWhen
      exact ⟨by decide, ⟨hparted.1, hparted.2.1, hparted.2.2.1, .inl (by decide), trivial⟩, fun h => (by cases h),
        trivial⟩
    · rintro rfl
      refine hrefute (u := "y".text ++ elseText ++ "z".text) ?_ (by decide) rfl (by decide) alone_partedLoop
      have hloop : (forEach "xs" parted).Parted inWhen true false :=
        ⟨by decide, hparted, fun h => (by cases h), trivial⟩
      exact ⟨by decide, ⟨by decide, hloop, ⟨.inl (by decide), trivial⟩, trivial⟩, trivial, trivial⟩
  · rintro ⟨rfl, rfl⟩ m budget vars hm hd hvars hfew
    exact alone_eq_unrolled hm.loose.outside budget hd hvars hfew

end Stencil
