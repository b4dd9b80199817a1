import Stencil.Proofs.Directive.Settling

/-!
# Placeholders that stand apart

A value that is put in for a placeholder may end like a token that has begun. Nothing comes of it where the text after
the placeholder does not go on with that token.

* **Spaced trees** (`Markup.spaced`): what follows each placeholder starts with a character that is neither a digit nor
  the closing slot character (`Markup.startsApart`), whichever branches are taken.
* Every step of a resolution leaves a tree that is spaced wherever the tree before it was (`Markup.Tighter`), and so
  does a whole resolution (`ensures_tighter_resolve`).
-/

namespace Stencil.Markup

open Resolve (Ensures)
open Text (BraceFree)

/-! ## Spaced trees -/

/-- Whether a tree, before something that starts apart if `next`, starts with a character that no token goes on with.
Loops may be empty, and values start with any character. -/
def startsApart : Markup → Bool → Bool
  | done, next => next
  | text [] rest, next => rest.startsApart next
  | text (c :: _) _, _ => !Text.isDigit c && c != slotClose
  | place .., _ => false
  | when _ yes rest, next => yes.startsApart (rest.startsApart next) && rest.startsApart next
  | choice _ yes no rest, next => yes.startsApart (rest.startsApart next) && no.startsApart (rest.startsApart next)
  | each .., _ => false

/-- Whether what follows each placeholder of a tree starts apart, the tree itself standing before something that starts
apart if `next`. The bodies of loops stand before themselves. -/
def spaced : Markup → Bool → Bool
  | done, _ => true
  | text _ rest, next => rest.spaced next
  | place _ rest, next => rest.startsApart next && rest.spaced next
  | when _ yes rest, next => yes.spaced (rest.startsApart next) && rest.spaced next
  | choice _ yes no rest, next =>
    yes.spaced (rest.startsApart next) && no.spaced (rest.startsApart next) && rest.spaced next
  | each _ body rest, next => body.startsApart false && body.spaced false && rest.spaced next

theorem startsApart_append (b : Markup) (next : Bool) : ∀ a : Markup,
    (a ++ b).startsApart next = a.startsApart (b.startsApart next)
  | done => rfl
  | text [] rest => startsApart_append b next rest
  | text (_ :: _) _ => rfl
  | place .. => rfl
  | when n yes rest => by simp [startsApart, startsApart_append b next rest]
  | choice n yes no rest => by simp [startsApart, startsApart_append b next rest]
  | each .. => rfl

theorem spaced_append (b : Markup) (next : Bool) : ∀ a : Markup,
    (a ++ b).spaced next = (a.spaced (b.startsApart next) && b.spaced next)
  | done => rfl
  | text t rest => spaced_append b next rest
  | place n rest => by simp [spaced, startsApart_append, spaced_append b next rest, Bool.and_assoc]
  | when n yes rest => by simp [spaced, startsApart_append, spaced_append b next rest, Bool.and_assoc]
  | choice n yes no rest => by simp [spaced, startsApart_append, spaced_append b next rest, Bool.and_assoc]
  | each n body rest => by simp [spaced, spaced_append b next rest, Bool.and_assoc]

theorem startsApart_mono {next next' : Bool} (h : next = true → next' = true) : ∀ {m : Markup},
    m.startsApart next = true → m.startsApart next' = true
  | done, hm => h hm
  | text [] rest, hm => startsApart_mono h (m := rest) hm
  | text (_ :: _) _, hm => hm
  | when _ yes rest, hm => by
    simp only [startsApart, Bool.and_eq_true] at hm ⊢
    exact ⟨startsApart_mono (startsApart_mono h) hm.1, startsApart_mono h hm.2⟩
  | choice _ yes no rest, hm => by
    simp only [startsApart, Bool.and_eq_true] at hm ⊢
    exact ⟨startsApart_mono (startsApart_mono h) hm.1, startsApart_mono (startsApart_mono h) hm.2⟩

theorem spaced_mono {next next' : Bool} (h : next = true → next' = true) : ∀ {m : Markup},
    m.spaced next = true → m.spaced next' = true
  | done, _ => rfl
  | text _ rest, hm => spaced_mono h (m := rest) hm
  | place _ rest, hm => by
    simp only [spaced, Bool.and_eq_true] at hm ⊢
    exact ⟨startsApart_mono h hm.1, spaced_mono h hm.2⟩
  | when _ yes rest, hm => by
    simp only [spaced, Bool.and_eq_true] at hm ⊢
    exact ⟨spaced_mono (startsApart_mono h) hm.1, spaced_mono h hm.2⟩
  | choice _ yes no rest, hm => by
    simp only [spaced, Bool.and_eq_true] at hm ⊢
    exact ⟨⟨spaced_mono (startsApart_mono h) hm.1.1, spaced_mono (startsApart_mono h) hm.1.2⟩, spaced_mono h hm.2⟩
  | each _ body rest, hm => by
    simp only [spaced, Bool.and_eq_true] at hm ⊢
    exact ⟨hm.1, spaced_mono h hm.2⟩

/-! ## Trees in the place of others -/

/-- A tree that starts apart and is spaced wherever another one does and is. -/
structure Tighter (m m' : Markup) : Prop where
  starts (next : Bool) : m.startsApart next = true → m'.startsApart next = true
  spaced (next : Bool) : m.spaced next = true → m'.spaced next = true

namespace Tighter

variable {m m' m'' yes yes' no no' rest rest' : Markup}

theorem refl (m : Markup) : Tighter m m := ⟨fun _ h => h, fun _ h => h⟩

theorem trans (h : Tighter m m') (h' : Tighter m' m'') : Tighter m m'' :=
  ⟨fun next hm => h'.starts next (h.starts next hm), fun next hm => h'.spaced next (h.spaced next hm)⟩

theorem text (t : Text) (h : Tighter rest rest') : Tighter (text t rest) (text t rest') where
  starts next hm := by
    cases t with
    | nil => exact h.starts next hm
    | cons c cs => exact hm
  spaced next hm := h.spaced next hm

theorem place (n : Text) (h : Tighter rest rest') : Tighter (place n rest) (place n rest') where
  starts _ hm := nomatch hm
  spaced next hm := by
    simp only [Markup.spaced, Bool.and_eq_true] at hm ⊢
    exact ⟨h.starts next hm.1, h.spaced next hm.2⟩

theorem filled (n : Text) (o : Option Text) (h : Tighter rest rest') : Tighter (.place n rest) (filled n rest' o) := by
  cases o with
  | none => exact h.place n
  | some t =>
    refine ⟨fun _ hm => (nomatch hm), fun next hm => h.spaced next ?_⟩
    simp only [Markup.spaced, Bool.and_eq_true] at hm
    exact hm.2

theorem when (n : Text) (hy : Tighter yes yes') (hr : Tighter rest rest') :
    Tighter (when n yes rest) (when n yes' rest') where
  starts next hm := by
    simp only [startsApart, Bool.and_eq_true] at hm ⊢
    exact ⟨hy.starts _ (startsApart_mono (hr.starts next) hm.1), hr.starts next hm.2⟩
  spaced next hm := by
    simp only [Markup.spaced, Bool.and_eq_true] at hm ⊢
    exact ⟨hy.spaced _ (spaced_mono (hr.starts next) hm.1), hr.spaced next hm.2⟩

theorem choice (n : Text) (hy : Tighter yes yes') (hno : Tighter no no') (hr : Tighter rest rest') :
    Tighter (choice n yes no rest) (choice n yes' no' rest') where
  starts next hm := by
    simp only [startsApart, Bool.and_eq_true] at hm ⊢
    exact ⟨hy.starts _ (startsApart_mono (hr.starts next) hm.1), hno.starts _ (startsApart_mono (hr.starts next) hm.2)⟩
  spaced next hm := by
    simp only [Markup.spaced, Bool.and_eq_true] at hm ⊢
    exact ⟨⟨hy.spaced _ (spaced_mono (hr.starts next) hm.1.1), hno.spaced _ (spaced_mono (hr.starts next) hm.1.2)⟩,
      hr.spaced next hm.2⟩

/-- A branch in the place of a conditional with one branch. -/
theorem branch (n : Text) (taken : Bool) (hr : Tighter rest rest') :
    Tighter (.when n yes rest) ((if taken then yes else done) ++ rest') where
  starts next hm := by
    simp only [startsApart, Bool.and_eq_true] at hm
    rw [startsApart_append]
    cases taken with
    | true => exact startsApart_mono (hr.starts next) hm.1
    | false => exact hr.starts next hm.2
  spaced next hm := by
    simp only [Markup.spaced, Bool.and_eq_true] at hm
    rw [spaced_append, Bool.and_eq_true]
    cases taken with
    | true => exact ⟨spaced_mono (hr.starts next) hm.1, hr.spaced next hm.2⟩
    | false => exact ⟨rfl, hr.spaced next hm.2⟩

/-- A branch in the place of a conditional with two branches. -/
theorem chosen (n : Text) (taken : Bool) (hr : Tighter rest rest') :
    Tighter (.choice n yes no rest) ((if taken then yes else no) ++ rest') where
  starts next hm := by
    simp only [startsApart, Bool.and_eq_true] at hm
    rw [startsApart_append]
    cases taken with
    | true => exact startsApart_mono (hr.starts next) hm.1
    | false => exact startsApart_mono (hr.starts next) hm.2
  spaced next hm := by
    simp only [Markup.spaced, Bool.and_eq_true] at hm
    rw [spaced_append, Bool.and_eq_true]
    cases taken with
    | true => exact ⟨spaced_mono (hr.starts next) hm.1.1, hr.spaced next hm.2⟩
    | false => exact ⟨spaced_mono (hr.starts next) hm.1.2, hr.spaced next hm.2⟩

end Tighter

/-- A tree that starts apart and is spaced before whatever starts apart, or that is empty. -/
structure Joins (m : Markup) : Prop where
  starts {next : Bool} : next = true → m.startsApart next = true
  spaced (next : Bool) : m.spaced next = true

theorem Joins.of_strict {m : Markup} (hstarts : m.startsApart false = true) (hspaced : m.spaced false = true) :
    m.Joins where
  starts _ := startsApart_mono (fun h => absurd h Bool.false_ne_true) hstarts
  spaced _ := spaced_mono (fun h => absurd h Bool.false_ne_true) hspaced

theorem Joins.append {a b : Markup} (ha : a.Joins) (hb : b.Joins) : (a ++ b).Joins where
  starts h := by
    rw [startsApart_append]
    exact ha.starts (hb.starts h)
  spaced next := by
    rw [spaced_append, ha.spaced, hb.spaced]
    rfl

/-- Trees that join in the place of a loop. -/
theorem Tighter.each (n : Text) {body b rest rest' : Markup}
    (hb : body.startsApart false = true → body.spaced false = true → b.Joins) (hr : Tighter rest rest') :
    Tighter (.each n body rest) (b ++ rest') where
  starts _ hm := nomatch hm
  spaced next hm := by
    simp only [Markup.spaced, Bool.and_eq_true] at hm
    rw [spaced_append, (hb hm.1.1 hm.1.2).spaced, Bool.true_and]
    exact hr.spaced next hm.2

/-! ## Steps -/

theorem tighter_choose (w : Bool) (holds : Text → Bool) : ∀ m : Markup, Tighter m (m.choose w holds)
  | done => .refl _
  | text t rest => (tighter_choose w holds rest).text t
  | place n rest => (tighter_choose w holds rest).place n
  | when n yes rest => by
    cases w with
    | true => exact .when n (tighter_choose true holds yes) (tighter_choose true holds rest)
    | false => exact .branch n (holds n) (tighter_choose false holds rest)
  | choice n yes no rest => by
    cases w with
    | true => exact .chosen n (holds n) (tighter_choose true holds rest)
    | false =>
      exact .choice n (tighter_choose false holds yes) (tighter_choose false holds no) (tighter_choose false holds rest)
  | each n body rest => by
    have hrest := tighter_choose w holds rest
    refine ⟨fun _ hm => (nomatch hm), fun next hm => ?_⟩
    simp only [choose, spaced, Bool.and_eq_true] at hm ⊢
    exact ⟨hm.1, hrest.spaced next hm.2⟩

theorem tighter_round (holds : Text → Bool) (m : Markup) : Tighter m (m.round holds) :=
  (tighter_choose true holds m).trans (tighter_choose false holds _)

theorem ensures_tighter_fillWith (answer : Text → Resolve (Option Text)) : ∀ {m : Markup}, m.Flat →
    (m.fillWith answer).Ensures (Tighter m)
  | done, _ => .pure (.refl _)
  | text t rest, h => (ensures_tighter_fillWith answer (m := rest) h).bind fun _ h' => .pure (h'.text t)
  | place n rest, h => (Ensures.true _).bind fun o _ =>
      (ensures_tighter_fillWith answer (m := rest) h).bind fun _ h' => .pure (h'.filled n o)

section Passes

variable {onTree : Scope → Markup → Resolve Markup} {f : Text → Markup → Resolve Markup} {r : Markup → Prop}

theorem ensures_tighter_expandWith (hf : ∀ n body, r body → body.startsApart false = true →
    body.spaced false = true → (f n body).Ensures Joins) : ∀ m : Markup, m.Bodies r →
      (m.expandWith f).Ensures (Tighter m)
  | done, _ => .pure (.refl _)
  | text t rest, h => (ensures_tighter_expandWith hf rest h).bind fun _ h' => .pure (h'.text t)
  | place n rest, h => (ensures_tighter_expandWith hf rest h).bind fun _ h' => .pure (h'.place n)
  | when n yes rest, ⟨hy, hr⟩ => (ensures_tighter_expandWith hf yes hy).bind fun _ hy' =>
      (ensures_tighter_expandWith hf rest hr).bind fun _ hr' => .pure (.when n hy' hr')
  | choice n yes no rest, ⟨hy, hno, hr⟩ => (ensures_tighter_expandWith hf yes hy).bind fun _ hy' =>
      (ensures_tighter_expandWith hf no hno).bind fun _ hno' =>
        (ensures_tighter_expandWith hf rest hr).bind fun _ hr' => .pure (.choice n hy' hno' hr')
  | each n body rest, ⟨hb, hr⟩ => by
    have hjoins : (f n body).Ensures fun b =>
        body.startsApart false = true → body.spaced false = true → b.Joins := fun l b l' hrun hstarts hspaced =>
      hf n body hb hstarts hspaced l b l' hrun
    exact hjoins.bind fun _ hb' => (ensures_tighter_expandWith hf rest hr).bind fun _ hr' => .pure (.each n hb' hr')

/-- The trees of the elements of a loop join, if its body is resolved to a flat tree that is no less apart. -/
theorem ensures_joins_loop {body : Markup} (hk : ∀ s, (onTree s body).Ensures fun m => Tighter body m ∧ m.Flat)
    (hstarts : body.startsApart false = true) (hspaced : body.spaced false = true) (s : Scope) (n : Text) :
    (resolveLoop onTree s n body).Ensures Joins := by
  have helements : ∀ (items : List Value) (index : Nat), (resolveElements onTree s body index items).Ensures Joins := by
    intro items
    induction items with
    | nil => exact fun _ => .pure ⟨id, fun _ => rfl⟩
    | cons item items ih =>
      intro index
      have hhere : (resolveElement onTree s body ⟨index, item⟩).Ensures Joins :=
        (hk _).bind fun m ⟨htighter, hflat⟩ l =>
          (ensures_tighter_fillWith _ hflat l).mono fun _ _ hfilled =>
            .of_strict (hfilled.starts _ (htighter.starts _ hstarts)) (hfilled.spaced _ (htighter.spaced _ hspaced))
      exact hhere.bind fun _ h => (ih (index + 1)).bind fun _ h' => .pure (h.append h')
  unfold resolveLoop
  split
  · exact helements _ 0
  · exact .pure ⟨id, fun _ => rfl⟩

/-- **Resolving keeps placeholders apart** from what follows them, with enough passes for every loop body. -/
theorem ensures_tighter_resolve {budget : Nat} (hb : 0 < budget) : ∀ depth s m, m.Formed BraceFree →
    m.bodyDepth ≤ budget → (resolve budget depth s m).Ensures (Tighter m)
  | 0, _, _, _, _ => fun _ _ _ hrun => by cases hrun
  | depth + 1, s, m, hm, hd => by
    have hstep : ∀ m', Tighter m m' ∧ m'.Bodies (fun body => body.Formed BraceFree ∧ body.depth ≤ budget) →
        (pass (resolve budget depth) s m').Ensures fun m'' =>
          Tighter m m'' ∧ m''.Bodies fun body => body.Formed BraceFree ∧ body.depth ≤ budget := by
      rintro m' ⟨htighter, hbodies⟩
      have hpass := ensures_tighter_expandWith (f := resolveLoop (resolve budget depth) s)
        (fun n body hbody hstarts hspaced => ensures_joins_loop (fun s' =>
          (ensures_tighter_resolve hb depth s' body hbody.1 ((depth_le_iff body).1 hbody.2).2).and
            (ensures_flat_resolve hb depth s' body hbody.1 hbody.2)) hstarts hspaced s n) _ (hbodies.round s.holds)
      have hfree := ensures_loopFree_pass (ensures_loopFree_resolve hb depth) s m'
      exact fun l => ((hpass.and hfree) l).mono fun m'' _ ⟨h, hl⟩ =>
        ⟨htighter.trans ((tighter_round s.holds m').trans h), hl.bodies⟩
    have hrun := ensures_settle hstep budget ⟨.refl m, hm.bodies.and (bodies_depth hd)⟩
    exact fun l => (hrun l).mono fun _ _ h => h.1

end Passes

end Stencil.Markup
