import Stencil.Proofs.Markup.Reading

/-!
# What trees are made of

* **Formed trees** (`Formed`): names and placeholders as in a well-formed tree, texts that meet a condition. A
  well-formed tree is one whose texts are plain (`formed_plain_iff`); a resolution keeps trees formed while their
  texts come to hold slot tokens.
* **Flat trees** (`Flat`) have neither conditionals nor loops.
* **Depths**: conditionals nest outside all loops or inside some loop body (`bodyDepth`, `depth_le_iff`).
-/

namespace Stencil.Markup

variable {p q : Text → Prop}

/-! ## Formed trees -/

/-- Well-formed up to its texts, which meet a condition. -/
def Formed (p : Text → Prop) : Markup → Prop
  | done => True
  | text t rest => p t ∧ rest.Formed p
  | place name rest => IsName name ∧ name ≠ elseName ∧ rest.Formed p
  | when name yes rest => IsName name ∧ yes.Formed p ∧ rest.Formed p
  | choice name yes no rest => IsName name ∧ yes.Formed p ∧ no.Formed p ∧ rest.Formed p
  | each name body rest => IsName name ∧ body.Formed p ∧ rest.Formed p

/-- A text without braces and slot characters. -/
def Plain (t : Text) : Prop := ∀ c ∈ t, isMarkupChar c = false

instance : DecidablePred Plain := fun t => List.decidableBAll _ t

theorem formed_plain_iff (m : Markup) : m.Formed Plain ↔ m.WellFormed := by
  induction m with
  | done => exact Iff.rfl
  | text t rest ih => simp only [Formed, WellFormed, Plain, ih]
  | place name rest ih => simp only [Formed, WellFormed, ih]
  | when name yes rest ihy ih => simp only [Formed, WellFormed, ihy, ih]
  | choice name yes no rest ihy ihn ih => simp only [Formed, WellFormed, ihy, ihn, ih]
  | each name body rest ihb ih => simp only [Formed, WellFormed, ihb, ih]

theorem Formed.mono (hpq : ∀ t, p t → q t) : ∀ {m : Markup}, m.Formed p → m.Formed q
  | done, _ => trivial
  | text _ _, ⟨ht, hr⟩ => ⟨hpq _ ht, hr.mono hpq⟩
  | place _ _, ⟨hn, he, hr⟩ => ⟨hn, he, hr.mono hpq⟩
  | when _ _ _, ⟨hn, hy, hr⟩ => ⟨hn, hy.mono hpq, hr.mono hpq⟩
  | choice _ _ _ _, ⟨hn, hy, hno, hr⟩ => ⟨hn, hy.mono hpq, hno.mono hpq, hr.mono hpq⟩
  | each _ _ _, ⟨hn, hb, hr⟩ => ⟨hn, hb.mono hpq, hr.mono hpq⟩

theorem Plain.braceFree {t : Text} (h : Plain t) : Text.BraceFree t := by
  rintro c hc rfl
  have := h _ hc
  revert this
  decide

/-! ## Appending -/

variable (b : Markup)

@[simp] theorem text_append (t : Text) (rest : Markup) : text t rest ++ b = text t (rest ++ b) := rfl

@[simp] theorem place_append (n : Text) (rest : Markup) : place n rest ++ b = place n (rest ++ b) := rfl

@[simp] theorem when_append (n : Text) (yes rest : Markup) : when n yes rest ++ b = when n yes (rest ++ b) := rfl

@[simp] theorem choice_append (n : Text) (yes no rest : Markup) :
    choice n yes no rest ++ b = choice n yes no (rest ++ b) := rfl

@[simp] theorem each_append (n : Text) (body rest : Markup) : each n body rest ++ b = each n body (rest ++ b) := rfl

theorem append_assoc (c : Markup) : ∀ a : Markup, a ++ b ++ c = a ++ (b ++ c)
  | done => rfl
  | text t rest => by simp [append_assoc c rest]
  | place n rest => by simp [append_assoc c rest]
  | when n yes rest => by simp [append_assoc c rest]
  | choice n yes no rest => by simp [append_assoc c rest]
  | each n body rest => by simp [append_assoc c rest]

@[simp] theorem append_done : ∀ a : Markup, a ++ done = a
  | done => rfl
  | text t rest => by simp [append_done rest]
  | place n rest => by simp [append_done rest]
  | when n yes rest => by simp [append_done rest]
  | choice n yes no rest => by simp [append_done rest]
  | each n body rest => by simp [append_done rest]

variable {b}

theorem Formed.append : ∀ {a : Markup}, a.Formed p → b.Formed p → (a ++ b).Formed p
  | done, _, hb => hb
  | text _ _, ⟨ht, hr⟩, hb => ⟨ht, hr.append hb⟩
  | place _ _, ⟨hn, he, hr⟩, hb => ⟨hn, he, hr.append hb⟩
  | when _ _ _, ⟨hn, hy, hr⟩, hb => ⟨hn, hy, hr.append hb⟩
  | choice _ _ _ _, ⟨hn, hy, hno, hr⟩, hb => ⟨hn, hy, hno, hr.append hb⟩
  | each _ _ _, ⟨hn, hd, hr⟩, hb => ⟨hn, hd, hr.append hb⟩

/-! ## Flat trees -/

/-- Texts and placeholders alone. -/
def Flat : Markup → Prop
  | done => True
  | text _ rest => rest.Flat
  | place _ rest => rest.Flat
  | _ => False

theorem flat_append : ∀ {a : Markup}, (a ++ b).Flat ↔ a.Flat ∧ b.Flat
  | done => by simp [Flat]
  | text _ rest => flat_append (a := rest)
  | place _ rest => flat_append (a := rest)
  | when _ _ _ => by simp [Flat]
  | choice _ _ _ _ => by simp [Flat]
  | each _ _ _ => by simp [Flat]

theorem loopFree_append : ∀ {a : Markup}, (a ++ b).LoopFree ↔ a.LoopFree ∧ b.LoopFree
  | done => by simp [LoopFree]
  | text _ rest => loopFree_append (a := rest)
  | place _ rest => loopFree_append (a := rest)
  | when _ yes rest => by simp [LoopFree, loopFree_append (a := rest), and_assoc]
  | choice _ yes no rest => by simp [LoopFree, loopFree_append (a := rest), and_assoc]
  | each _ _ _ => by simp [LoopFree]

theorem Flat.loopFree : ∀ {m : Markup}, m.Flat → m.LoopFree
  | done, _ => trivial
  | text _ rest, h => Flat.loopFree (m := rest) h
  | place _ rest, h => Flat.loopFree (m := rest) h

/-- A tree without loops and conditionals is flat. -/
theorem flat_of_outerDepth : ∀ {m : Markup}, m.LoopFree → m.outerDepth = 0 → m.Flat
  | done, _, _ => trivial
  | text _ rest, hl, hd => flat_of_outerDepth (m := rest) hl hd
  | place _ rest, hl, hd => flat_of_outerDepth (m := rest) hl hd
  | when _ _ _, _, hd => by simp [outerDepth] at hd
  | choice _ _ _ _, _, hd => by simp [outerDepth] at hd

theorem Flat.outerDepth_eq : ∀ {m : Markup}, m.Flat → m.outerDepth = 0
  | done, _ => rfl
  | text _ rest, h => Flat.outerDepth_eq (m := rest) h
  | place _ rest, h => Flat.outerDepth_eq (m := rest) h

/-! ## Depths -/

theorem outerDepth_append : ∀ a : Markup, (a ++ b).outerDepth = max a.outerDepth b.outerDepth
  | done => by simp [outerDepth]
  | text _ rest => outerDepth_append rest
  | place _ rest => outerDepth_append rest
  | when _ yes rest => by simp only [when_append, outerDepth, outerDepth_append rest]; omega
  | choice _ yes no rest => by simp only [choice_append, outerDepth, outerDepth_append rest]; omega
  | each _ _ rest => outerDepth_append rest

/-- The deepest nesting of conditionals inside one loop body. -/
def bodyDepth : Markup → Nat
  | done => 0
  | text _ rest => rest.bodyDepth
  | place _ rest => rest.bodyDepth
  | when _ yes rest => max yes.bodyDepth rest.bodyDepth
  | choice _ yes no rest => max (max yes.bodyDepth no.bodyDepth) rest.bodyDepth
  | each _ body rest => max body.depth rest.bodyDepth

/-- A bound on all nestings bounds those outside all loops and those inside loop bodies. -/
theorem depth_le_iff {n : Nat} : ∀ m : Markup, m.depth ≤ n ↔ m.outerDepth ≤ n ∧ m.bodyDepth ≤ n
  | done => by simp [depth, outerDepth, bodyDepth]
  | text _ rest => depth_le_iff rest
  | place _ rest => depth_le_iff rest
  | when _ yes rest => by
    simp only [depth, outerDepth, bodyDepth, Nat.max_le, depth_le_iff yes, depth_le_iff rest]
    omega
  | choice _ yes no rest => by
    simp only [depth, outerDepth, bodyDepth, Nat.max_le, depth_le_iff yes, depth_le_iff no, depth_le_iff rest]
    omega
  | each _ body rest => by
    simp only [depth, outerDepth, bodyDepth, Nat.max_le, depth_le_iff rest]
    omega

/-! ## Loop bodies -/

/-- The bodies of the loops that stand in no other loop meet a condition. -/
def Bodies (r : Markup → Prop) : Markup → Prop
  | done => True
  | text _ rest => rest.Bodies r
  | place _ rest => rest.Bodies r
  | when _ yes rest => yes.Bodies r ∧ rest.Bodies r
  | choice _ yes no rest => yes.Bodies r ∧ no.Bodies r ∧ rest.Bodies r
  | each _ body rest => r body ∧ rest.Bodies r

variable {r r' : Markup → Prop}

theorem Bodies.mono (h : ∀ body, r body → r' body) : ∀ {m : Markup}, m.Bodies r → m.Bodies r'
  | done, _ => trivial
  | text _ rest, hr => Bodies.mono h (m := rest) hr
  | place _ rest, hr => Bodies.mono h (m := rest) hr
  | when _ _ _, ⟨hy, hr⟩ => ⟨hy.mono h, hr.mono h⟩
  | choice _ _ _ _, ⟨hy, hno, hr⟩ => ⟨hy.mono h, hno.mono h, hr.mono h⟩
  | each _ _ _, ⟨hb, hr⟩ => ⟨h _ hb, hr.mono h⟩

theorem Bodies.and : ∀ {m : Markup}, m.Bodies r → m.Bodies r' → m.Bodies fun body => r body ∧ r' body
  | done, _, _ => trivial
  | text _ rest, hr, hr' => Bodies.and (m := rest) hr hr'
  | place _ rest, hr, hr' => Bodies.and (m := rest) hr hr'
  | when _ _ _, ⟨hy, hr⟩, ⟨hy', hr'⟩ => ⟨hy.and hy', hr.and hr'⟩
  | choice _ _ _ _, ⟨hy, hno, hr⟩, ⟨hy', hno', hr'⟩ => ⟨hy.and hy', hno.and hno', hr.and hr'⟩
  | each _ _ _, ⟨hb, hr⟩, ⟨hb', hr'⟩ => ⟨⟨hb, hb'⟩, hr.and hr'⟩

theorem bodies_append : ∀ {a : Markup}, (a ++ b).Bodies r ↔ a.Bodies r ∧ b.Bodies r
  | done => by simp [Bodies]
  | text _ rest => bodies_append (a := rest)
  | place _ rest => bodies_append (a := rest)
  | when _ yes rest => by simp [Bodies, bodies_append (a := rest), and_assoc]
  | choice _ yes no rest => by simp [Bodies, bodies_append (a := rest), and_assoc]
  | each _ body rest => by simp [Bodies, bodies_append (a := rest), and_assoc]

theorem Formed.bodies : ∀ {m : Markup}, m.Formed p → m.Bodies (Formed p)
  | done, _ => trivial
  | text _ rest, ⟨_, hr⟩ => Formed.bodies (m := rest) hr
  | place _ rest, ⟨_, _, hr⟩ => Formed.bodies (m := rest) hr
  | when _ _ _, ⟨_, hy, hr⟩ => ⟨hy.bodies, hr.bodies⟩
  | choice _ _ _ _, ⟨_, hy, hno, hr⟩ => ⟨hy.bodies, hno.bodies, hr.bodies⟩
  | each _ _ _, ⟨_, hb, hr⟩ => ⟨hb, hr.bodies⟩

/-- A tree without loops has no loop bodies. -/
theorem LoopFree.bodies : ∀ {m : Markup}, m.LoopFree → m.Bodies r
  | done, _ => trivial
  | text _ rest, h => LoopFree.bodies (m := rest) h
  | place _ rest, h => LoopFree.bodies (m := rest) h
  | when _ _ _, ⟨hy, hr⟩ => ⟨hy.bodies, hr.bodies⟩
  | choice _ _ _ _, ⟨hy, hno, hr⟩ => ⟨hy.bodies, hno.bodies, hr.bodies⟩

theorem loopFree_of_bodies : ∀ {m : Markup}, m.Bodies (fun _ => False) → m.LoopFree
  | done, _ => trivial
  | text _ rest, h => loopFree_of_bodies (m := rest) h
  | place _ rest, h => loopFree_of_bodies (m := rest) h
  | when _ _ _, ⟨hy, hr⟩ => ⟨loopFree_of_bodies hy, loopFree_of_bodies hr⟩
  | choice _ _ _ _, ⟨hy, hno, hr⟩ => ⟨loopFree_of_bodies hy, loopFree_of_bodies hno, loopFree_of_bodies hr⟩

theorem bodies_depth {n : Nat} : ∀ {m : Markup}, m.bodyDepth ≤ n → m.Bodies (·.depth ≤ n)
  | done, _ => trivial
  | text _ rest, h => bodies_depth (m := rest) h
  | place _ rest, h => bodies_depth (m := rest) h
  | when _ yes rest, h => by
    simp only [bodyDepth, Nat.max_le] at h
    exact ⟨bodies_depth h.1, bodies_depth h.2⟩
  | choice _ yes no rest, h => by
    simp only [bodyDepth, Nat.max_le] at h
    exact ⟨bodies_depth h.1.1, bodies_depth h.1.2, bodies_depth h.2⟩
  | each _ body rest, h => by
    simp only [bodyDepth, Nat.max_le] at h
    exact ⟨h.1, bodies_depth h.2⟩

theorem bodies_loopDepth {n : Nat} : ∀ {m : Markup}, m.loopDepth ≤ n → m.Bodies (·.loopDepth < n)
  | done, _ => trivial
  | text _ rest, h => bodies_loopDepth (m := rest) h
  | place _ rest, h => bodies_loopDepth (m := rest) h
  | when _ yes rest, h => by
    simp only [loopDepth, Nat.max_le] at h
    exact ⟨bodies_loopDepth h.1, bodies_loopDepth h.2⟩
  | choice _ yes no rest, h => by
    simp only [loopDepth, Nat.max_le] at h
    exact ⟨bodies_loopDepth h.1.1, bodies_loopDepth h.1.2, bodies_loopDepth h.2⟩
  | each _ body rest, h => by
    simp only [loopDepth, Nat.max_le] at h
    exact ⟨h.1, bodies_loopDepth h.2⟩

theorem LoopFree.loopDepth_eq : ∀ {m : Markup}, m.LoopFree → m.loopDepth = 0
  | done, _ => rfl
  | text _ rest, h => LoopFree.loopDepth_eq (m := rest) h
  | place _ rest, h => LoopFree.loopDepth_eq (m := rest) h
  | when _ _ _, ⟨hy, hr⟩ => by simp [loopDepth, hy.loopDepth_eq, hr.loopDepth_eq]
  | choice _ _ _ _, ⟨hy, hno, hr⟩ => by simp [loopDepth, hy.loopDepth_eq, hno.loopDepth_eq, hr.loopDepth_eq]

/-- Each loop takes characters of its own. -/
theorem loopDepth_le_length : ∀ m : Markup, m.loopDepth ≤ m.print.length
  | done => Nat.le_refl _
  | text t rest => by
    have := loopDepth_le_length rest
    simp only [loopDepth, print, List.length_append]
    omega
  | place n rest => by
    have := loopDepth_le_length rest
    simp only [loopDepth, print, List.length_append]
    omega
  | when n yes rest => by
    have := loopDepth_le_length yes
    have := loopDepth_le_length rest
    simp only [loopDepth, print, List.length_append]
    omega
  | choice n yes no rest => by
    have := loopDepth_le_length yes
    have := loopDepth_le_length no
    have := loopDepth_le_length rest
    simp only [loopDepth, print, List.length_append]
    omega
  | each n body rest => by
    have := loopDepth_le_length body
    have := loopDepth_le_length rest
    have : 0 < loopMarkers.closing.length := by decide
    simp only [loopDepth, print, List.length_append]
    omega

end Stencil.Markup
