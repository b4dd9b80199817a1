import Stencil.Proofs.Directive.Meaning
import Stencil.Proofs.Directive.Resuming
import Stencil.Proofs.Slots.Weaving
import Stencil.Proofs.Template.Evaluation

/-!
# Resolving trees with loose markers

* The passes over a written loose tree write the tree that the passes over the tree make (`resolveDirectives_loose`).
* **One pass and then rounds** (`leaves_resolve_rounds`): the first pass leaves no loops, so that all texts are held by
  it.
* The first pass keeps the meaning of a loose tree (`looselyMeans_expandWith`), and so do rounds. With enough passes the
  tree that is left is flat, and the text that it is restored to is its meaning (`meaning_flat`).
* **Resolving unrolls** (`alone_eq_unrolled`): the markers that stand alone stay as they are.
-/

namespace Stencil

open Markup (Plain)
open Text (BraceFree)

namespace Markup

variable {lvl : Branch} {m : Markup}

/-! ## Steps keep trees loose -/

theorem ensures_loose_expandWith {f : Text → Markup → Resolve Markup}
    (hf : ∀ n body l, body.Formed BraceFree → LeavesFormed (fun _ => BraceFree) (f n body) l)
    (hm : m.Loose BraceFree lvl) : (m.expandWith f).Ensures (Loose BraceFree lvl) := by
  induction hm with
  | formed h =>
    exact fun l => (leavesFormed_expandWith Slots.admits_braceFree hf _ l h).mono fun _ _ h => .formed h.2
  | append _ _ iha ihb =>
    rw [expandWith_append]
    exact iha.bind fun a ha => ihb.bind fun b hb => .pure (.append ha hb)
  | stray ht => exact .pure (.stray ht)
  | choice hn _ _ ihy ihno =>
    exact ihy.bind fun y hy => ihno.bind fun no hno => .pure (.choice hn hy hno)

/-! ## Written loose trees -/

theorem ensures_loose_pass (budget depth : Nat) (s : Scope) (hm : m.Loose BraceFree lvl) :
    (pass (resolve budget depth) s m).Ensures (Loose BraceFree .outside) :=
  ensures_loose_expandWith (fun n _ _ hb => leavesFormed_loop Slots.admits_braceFree
    (keepsBraceFree_resolve budget depth) s n hb) (hm.round s.holds)

/-- Resolving a written loose tree writes the resolved tree. -/
theorem resolveDirectives_loose (hm : m.Loose BraceFree .outside) (budget : Nat) (vars : Fields) :
    resolveDirectives budget m.print vars = print <$> resolve budget (depthAllowance m.print) (.outer vars) m :=
  settle_print (fun _ h => onePass_print (runPasses_print budget _) (keepsBraceFree_resolve budget _) _ h)
    (fun _ h => ensures_loose_pass budget _ _ h) budget hm

/-- **A resolution is one pass and then rounds.** If it stops after the first pass, the tree is flat, and rounds would
not change it. -/
theorem leaves_resolve_rounds (budget depth : Nat) (s : Scope) (hm : m.Loose BraceFree .outside) (l : Ledger) :
    (resolve (budget + 1) (depth + 1) s m).Leaves l fun m' l' => ∃ m₁ l₁,
      (pass (resolve (budget + 1) depth) s m).run l = .ok m₁ l₁ ∧ m' = m₁.rounds s.holds budget ∧
      l'.slots = l₁.slots := by
  intro m' l' hrun
  obtain ⟨m₁, l₁, hpass, hrest⟩ := Resolve.run_bind_eq_ok hrun
  have hfree : m₁.LoopFree :=
    ensures_loopFree_pass (ensures_loopFree_resolve (Nat.succ_pos budget) depth) s m l m₁ l₁ hpass
  have hloose : m₁.Loose BraceFree .outside := ensures_loose_pass _ depth s hm l m₁ l₁ hpass
  refine ⟨m₁, l₁, hpass, ?_⟩
  split at hrest
  · rename_i hsame
    cases hrest
    have hl : m.LoopFree := loopFree_of_print hm hloose hfree hsame
    rw [pass_of_loopFree _ s hl] at hpass
    cases hpass
    have hflat : m.Flat := flat_of_round hl hsame
    rw [hflat.round_eq, hflat.rounds_eq]
    exact ⟨rfl, rfl⟩
  · obtain ⟨l₂, hrounds, hslots⟩ := run_settle_rounds (resolve (budget + 1) depth) s budget l₁ hfree
    rw [hrounds] at hrest
    cases hrest
    exact ⟨rfl, hslots⟩

/-! ## Meanings of loose trees -/

section Meanings

variable {outside : Text → Except TextFault Text} {slots slots' : Slots} {s : Scope} {l : Ledger}

theorem Branch.Stray.slotFree {t : Text} (ht : lvl.Stray t) : SlotFree t := by
  have helse : SlotFree elseText := by decide
  cases lvl with
  | outside =>
    obtain rfl | ⟨kind, n, hn, rfl⟩ := ht
    · exact helse
    · exact slotFree_openText kind hn
  | first => exact ht.elim
  | second =>
    cases ht
    exact helse

/-- Texts held later do not change the meaning. -/
theorem Loose.meaning_grow (hs : slots <+: slots') (hm : m.Loose slots.Held lvl) :
    m.meaning outside slots' s = m.meaning outside slots s := by
  induction hm with
  | formed h => exact Markup.meaning_grow hs h s
  | append _ _ iha ihb => rw [meaning_append, meaning_append, iha, ihb]
  | stray ht => rw [meaning_text, meaning_text, Slots.fill_slotFree ht.slotFree, Slots.fill_slotFree ht.slotFree]; rfl
  | choice _ _ _ ihy ihno => rw [meaning_choice, meaning_choice, ihy, ihno]; rfl

/-- The resolution holds texts besides those held, and the tree that it leaves is loose and has a meaning in the
scope. -/
def LooselyMeans (outside : Text → Except TextFault Text) (lvl : Branch) (s : Scope) (x : Resolve Markup) (l : Ledger)
    (doc : Except TextFault Text) : Prop :=
  x.Leaves l fun m l' => l.slots <+: l'.slots ∧ m.Loose l'.slots.Held lvl ∧ m.meaning outside l'.slots s = doc

theorem LooselyMeans.bind {lvl' : Branch} {x : Resolve Markup} {f : Markup → Resolve Markup}
    {doc doc' : Except TextFault Text} (hx : LooselyMeans outside lvl s x l doc)
    (hf : ∀ m l', l.slots <+: l'.slots → m.Loose l'.slots.Held lvl → m.meaning outside l'.slots s = doc →
      LooselyMeans outside lvl' s (f m) l' doc') : LooselyMeans outside lvl' s (x >>= f) l doc' :=
  Resolve.Leaves.bind_grow hx fun m l' hg ⟨hm, he⟩ => hf m l' hg hm he

theorem LooselyMeans.pure {doc : Except TextFault Text} (hm : m.Loose l.slots.Held lvl)
    (h : m.meaning outside l.slots s = doc) : LooselyMeans outside lvl s (Pure.pure m) l doc :=
  Resolve.Leaves.pure ⟨List.prefix_refl _, hm, h⟩

theorem Loose.grow (hs : slots <+: slots') (hm : m.Loose slots.Held lvl) : m.Loose slots'.Held lvl :=
  hm.mono fun _ ht => Slots.admits_held.grow hs ht

/-- A loose tree before any of its loops is resolved holds no tokens. -/
theorem Loose.held (hm : m.Loose Plain lvl) (slots : Slots) : m.Loose slots.Held lvl := hm.mono fun _ => .inl

/-- Expanding the loops of a loose tree keeps its meaning. -/
theorem looselyMeans_expandWith {r : Markup → Prop} {f : Text → Markup → Resolve Markup}
    (hf : ∀ n body l, r body → body.Formed l.slots.Held →
      Means outside s (f n body) l ((each n body done).meaning outside l.slots s)) (hm : m.Loose Plain lvl) :
    ∀ l : Ledger, m.Bodies r → LooselyMeans outside lvl s (m.expandWith f) l (m.meaning outside l.slots s) := by
  induction hm with
  | formed h =>
    intro l hr
    exact (means_expandWith hf _ l (h.mono fun _ => .inl) hr).mono fun _ _ ⟨hg, hm, he⟩ => ⟨hg, .formed hm, he⟩
  | append ha hb iha ihb =>
    intro l hr
    obtain ⟨hra, hrb⟩ := bodies_append.1 hr
    rw [expandWith_append]
    refine (iha l hra).bind fun a l₁ hg ha' hea => (ihb l₁ hrb).bind fun b l₂ hg' hb' heb => ?_
    refine .pure (.append (ha'.grow hg') hb') ?_
    rw [meaning_append, meaning_append, ha'.meaning_grow hg', hea, heb, (hb.held _).meaning_grow hg]
  | stray ht => exact fun l _ => .pure (.stray ht) rfl
  | choice hn hy hno ihy ihno =>
    intro l hr
    refine (ihy l hr.1).bind fun y l₁ hg hy' hey => (ihno l₁ hr.2.1).bind fun o l₂ hg' hno' heno => ?_
    refine .pure (m := choice _ y o done) (.choice hn (hy'.grow hg') hno') ?_
    rw [meaning_choice, meaning_choice, hy'.meaning_grow hg', hey, heno, (hno.held _).meaning_grow hg]
    rfl

/-! ## Flat trees -/

/-- A written loose tree of held texts is issued. -/
theorem Loose.issued (hm : m.Loose slots.Held lvl) : Issued slots.length m.print := by
  induction hm with
  | formed h => exact issued_print h
  | append _ _ iha ihb =>
    rw [print_append]
    exact iha.append ihb
  | stray ht => simpa [print] using Issued.slotFree_append .nil ht.slotFree
  | choice hn _ _ ihy ihno =>
    simp only [print, List.append_assoc, List.append_nil]
    have hclose : Issued slots.length conditionalMarkers.closing := by
      simpa using Issued.slotFree_append (n := slots.length) .nil (u := conditionalMarkers.closing) (by decide)
    exact .slotFree_append (ihy.append (.slotFree_append (ihno.append hclose) (by decide))) (slotFree_openText _ hn)

/-- Where placeholders stay as they are, a flat tree means the text that its tokens are replaced in. -/
theorem meaning_flat_formed (vars : Fields) : ∀ {m : Markup}, m.Flat → m.Formed slots.Held →
    m.meaning (fun n => .ok (placeText n)) slots (.outer vars) = .ok (slots.fill m.print)
  | done, _, _ => rfl
  | text t rest, hflat, ⟨ht, hr⟩ => by
    rw [meaning_text, meaning_flat_formed vars (m := rest) hflat hr, print,
      Slots.fill_issued_append ht.issued]
    rfl
  | place n rest, hflat, ⟨hn, _, hr⟩ => by
    rw [meaning_place, meaning_flat_formed vars (m := rest) hflat hr, placeWith_outer, print,
      (Slots.unread_of_slotFree (slotFree_placeText hn) _).fill_append]
    rfl

theorem meaning_flat (vars : Fields) (hm : m.Loose slots.Held lvl) (hflat : m.Flat) :
    m.meaning (fun n => .ok (placeText n)) slots (.outer vars) = .ok (slots.fill m.print) := by
  induction hm with
  | formed h => exact meaning_flat_formed vars hflat h
  | append ha _ iha ihb =>
    obtain ⟨hfa, hfb⟩ := flat_append.1 hflat
    rw [meaning_append, iha hfa, ihb hfb, print_append, Slots.fill_issued_append ha.issued]
    rfl
  | stray ht =>
    rw [meaning_text, meaning_done, inTurn_nil, print, print, List.append_nil]
  | choice _ _ _ _ _ => exact hflat.elim

/-! ## Whole runs -/

section Runs

variable {values : Value → Prop} (hp : Value.Hereditary values) (hc : Countable values) {budget : Nat} (hb : 0 < budget)

include hp hc hb

/-- A pass keeps the meaning of a loose tree. -/
theorem looselyMeans_pass (depth : Nat) (hs : s.Within values) (hm : m.Loose Plain .outside)
    (hd : m.bodyDepth ≤ budget) (l : Ledger) :
    LooselyMeans outside .outside s (pass (resolve budget depth) s m) l (m.meaning outside l.slots s) := by
  rw [← meaning_round]
  exact looselyMeans_expandWith (r := (·.depth ≤ budget)) (fun n body l hdepth hform =>
    means_loop hp hc (settles_resolve hp hc hb depth hdepth) hs n l hform) (hm.round s.holds) l
    ((bodies_depth hd).round s.holds)

/-- With enough passes the tree that is left is flat and means what the whole tree does. -/
theorem leaves_resolve_flat (depth : Nat) (hs : s.Within values) (hm : m.Loose Plain .outside) (hd : m.depth ≤ budget)
    (l : Ledger) : (resolve budget (depth + 1) s m).Leaves l fun m' l' =>
      m'.Flat ∧ m'.Loose l'.slots.Held .outside ∧ m'.meaning outside l'.slots s = m.meaning outside l.slots s := by
  obtain ⟨budget, rfl⟩ := Nat.exists_eq_succ_of_ne_zero (Nat.ne_of_gt hb)
  have hbrace : m.Loose BraceFree .outside := hm.mono fun _ h => h.braceFree
  obtain ⟨houter, hbody⟩ := (depth_le_iff m).1 hd
  rintro m' l' hrun
  obtain ⟨m₁, l₁, hpass, rfl, hslots⟩ := leaves_resolve_rounds budget depth s hbrace l m' l' hrun
  have hfree : m₁.LoopFree := ensures_loopFree_pass (ensures_loopFree_resolve hb depth) s m l m₁ l₁ hpass
  have hlevels : m₁.outerDepth ≤ m.outerDepth - 1 :=
    ensures_outerDepth_pass (r := fun body => body.Formed BraceFree ∧ body.depth ≤ budget + 1)
      (fun s body ⟨hf, hbd⟩ => ensures_flat_resolve hb depth s body hf hbd) s
      (hbrace.bodies.and (bodies_depth hbody)) l m₁ l₁ hpass
  have hmeans : LooselyMeans outside .outside s _ l _ := looselyMeans_pass hp hc hb depth hs hm hbody l
  obtain ⟨-, hloose, hkept⟩ := hmeans m₁ l₁ hpass
  refine ⟨?_, ?_, ?_⟩
  · have hnone : (m₁.rounds s.holds budget).outerDepth ≤ m₁.outerDepth - budget := outerDepth_rounds budget m₁
    exact flat_of_outerDepth (rounds_keep (fun _ h => h.round s.holds) budget hfree) (by omega)
  · rw [hslots]
    exact rounds_keep (fun _ h => h.round s.holds) budget hloose
  · rw [hslots, ← hkept]
    exact rounds_keep (q := fun m => m.meaning outside l₁.slots s = m₁.meaning outside l₁.slots s)
      (fun m h => by rw [meaning_round, h]) budget rfl

end Runs

end Meanings

end Markup

/-! ## Texts -/

open Markup

/-- The resolution of a text holds no more texts than the digits of a token can number. -/
def HoldsFew (budget : Nat) (t : Text) (vars : Fields) : Prop := ∀ resolved ledger,
  (resolveDirectives budget t vars).run .empty = .ok resolved ledger → ledger.slots.length ≤ digitBound

/-- **Resolving unrolls.** With enough passes a template with loose markers resolves to its text with the conditionals
decided and the loops unrolled, in which these markers and the placeholders that no element answers for stand as they
are. -/
theorem alone_eq_unrolled {m : Markup} (hm : m.Loose Plain .outside) (budget : PassBudget) (hd : m.depth ≤ budget.val)
    {vars : Fields} (hvars : ∀ name v, vars.get? name = some v → v.Printable)
    (hfew : HoldsFew budget.val m.print vars) :
    ∃ t, m.unrolled (.outer vars) = .ok t ∧ (resolveDirectives budget.val m.print vars).alone = .ok t := by
  have hallowance : depthAllowance m.print = m.print.length + 199 + 1 := rfl
  have havoids := avoids_resolve Value.hereditary_printable (Value.avoids_holdValue_printable fun _ => True)
    budget.property (depthAllowance m.print) _ m (.outer hvars) (loopDepth_lt_depthAllowance m)
  obtain ⟨m', l, hrun⟩ := havoids.succeeds .empty
  have hwhole : (resolveDirectives budget.val m.print vars).run .empty = .ok m'.print l := by
    rw [resolveDirectives_loose (hm.mono fun _ h => h.braceFree), Resolve.run_map, hrun]
  rw [hallowance] at hrun
  obtain ⟨hflat, hloose, hkept⟩ : m'.Flat ∧ m'.Loose l.slots.Held .outside ∧
      m'.meaning (fun name => .ok (placeText name)) l.slots (.outer vars)
        = m.meaning (fun name => .ok (placeText name)) [] (.outer vars) :=
    leaves_resolve_flat Value.hereditary_printable Value.countable_printable budget.property _ (.outer hvars) hm hd
      .empty m' l hrun
  rw [meaning_flat vars hloose hflat] at hkept
  refine ⟨l.slots.fill m'.print, ?_, ?_⟩
  · rw [unrolled, ← meaning_of_none_held]
    exact hkept.symm
  · have hshort : Slots.overlong? m'.print = none := Slots.overlong?_of_issued hloose.issued (hfew _ _ hwhole)
    simp only [Resolve.alone, hwhole, l.slots.restore_eq_fill hshort]
    rfl

end Stencil
