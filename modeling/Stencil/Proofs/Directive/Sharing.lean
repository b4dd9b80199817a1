import Stencil.Proofs.Directive.Effects
import Stencil.Proofs.Markup.Opaque

/-!
# Resolutions from held texts

* **Sharing** (`Resolve.Shares`): a resolution and another one that starts where further texts are held before. Their
  results are related, they hold the same new texts, and where one fails the other one fails for the same reason.
* The texts of two such resolutions are renumbered, and that is all that ever sets them apart: each of its steps keeps
  it, and no test for a settled text tells them apart (`shares_settle`, `shares_runPasses`).
* So a resolution into slots that hold texts already gives the text of the resolution on its own, once the tokens are
  replaced (`resolveDirectives_shares`).
-/

namespace Stencil

/-- The ledger of a resolution, with what was held before it. -/
def Ledger.before (held l : Ledger) : Ledger := ⟨held.slots ++ l.slots, held.exhausted + l.exhausted⟩

/-- Texts of a resolution that holds `n` texts, and of one that starts from a ledger. -/
abbrev Ledger.Renumbers (held : Ledger) (n : Nat) : Text → Text → Prop := Renumbered n 0 held.slots.length

namespace Resolve

variable {α β : Type} {held l : Ledger}

/-- Both resolutions, the second one with texts held before, give related results and hold the same new texts, or fail
for one reason. The relation depends on how many texts the first one holds, which grow in number. -/
def Shares (held : Ledger) (rel : Nat → α → α → Prop) (x y : Resolve α) (l : Ledger) : Prop :=
  (∃ a b l', x.run l = .ok a l' ∧ y.run (held.before l) = .ok b (held.before l') ∧
    l.slots.length ≤ l'.slots.length ∧ rel l'.slots.length a b) ∨
  ∃ fault l', x.run l = .error fault l' ∧ y.run (held.before l) = .error fault (held.before l')

variable {rel : Nat → α → α → Prop}

theorem Shares.pure {a b : α} (h : rel l.slots.length a b) : Shares held rel (Pure.pure a) (Pure.pure b) l :=
  .inl ⟨a, b, l, rfl, rfl, Nat.le_refl _, h⟩

theorem Shares.throw (fault : Fault) : Shares held rel (throw fault) (throw fault) l := .inr ⟨fault, l, rfl, rfl⟩

theorem Shares.bind {rel' : Nat → β → β → Prop} {x y : Resolve α} {f g : α → Resolve β} (hx : Shares held rel x y l)
    (hf : ∀ a b l', l.slots.length ≤ l'.slots.length → rel l'.slots.length a b → Shares held rel' (f a) (g b) l') :
    Shares held rel' (x >>= f) (y >>= g) l := by
  rcases hx with ⟨a, b, l₁, hxa, hyb, hle, hab⟩ | ⟨fault, l₁, hxe, hye⟩
  · rcases hf a b l₁ hle hab with ⟨c, d, l₂, hfc, hgd, hle', hcd⟩ | ⟨fault, l₂, hfe, hge⟩
    · exact .inl ⟨c, d, l₂, by rw [run_bind_ok hxa, hfc], by rw [run_bind_ok hyb, hgd], Nat.le_trans hle hle', hcd⟩
    · exact .inr ⟨fault, l₂, by rw [run_bind_ok hxa, hfe], by rw [run_bind_ok hyb, hge]⟩
  · exact .inr ⟨fault, l₁, run_bind_error hxe f, run_bind_error hye g⟩

/-- A value is held in both under the token that comes next. -/
theorem shares_holdValue (v : Value) : Shares held held.Renumbers (holdValue v) (holdValue v) l := by
  cases hv : v.printed with
  | error fault =>
    rw [holdValue, hv]
    exact .throw _
  | ok u =>
    have htoken : held.Renumbers (l.slots.length + 1) (slotToken l.slots.length)
        (slotToken (held.slots.length + l.slots.length)) := by
      have := Renumbered.of_token 0 held.slots.length (Nat.lt_succ_self l.slots.length)
      rwa [Nat.zero_add] at this
    have hright := run_holdValue hv (held.before l)
    simp only [Ledger.before, List.length_append, List.append_assoc] at hright
    refine .inl ⟨_, _, _, run_holdValue hv l, hright, ?_, ?_⟩
    · simp
    · simpa using htoken

theorem shares_noteExhausted : Shares held (fun _ _ _ => True) noteExhausted noteExhausted l :=
  .inl ⟨(), (), { l with exhausted := l.exhausted + 1 }, rfl, rfl, Nat.le_refl _, trivial⟩

end Resolve

open Resolve (Shares shares_holdValue shares_noteExhausted)
open Text (pieces)

variable {held : Ledger} {n : Nat}

/-! ## Items -/

/-- Related pieces are written to renumbered texts, if related items are. -/
theorem shares_writeM {α : Type} {rel : α → α → Prop} {write : α → Resolve Text} {ps ps' : List (Piece α)}
    (hwrite : ∀ a a' l, n ≤ l.slots.length → rel a a' → Shares held held.Renumbers (write a) (write a') l)
    (h : PiecesAlike n 0 held.slots.length rel ps ps') : ∀ l : Ledger, n ≤ l.slots.length →
    Shares held held.Renumbers (Text.writeM write ps) (Text.writeM write ps') l := by
  induction h with
  | nil => exact fun l _ => .pure .nil
  | chars hu _ ih =>
    intro l hl
    rw [Text.writeM_append, Text.writeM_append, Text.writeM_chars, Text.writeM_chars, pure_bind, pure_bind]
    exact (ih l hl).bind fun rest rest' l' hle hrest => .pure ((hu.mono (Nat.le_trans hl hle)).append hrest)
  | item hitem _ ih =>
    intro l hl
    refine (hwrite _ _ l hl hitem).bind fun here here' l₁ hle hhere => ?_
    exact (ih l₁ (Nat.le_trans hl hle)).bind fun rest rest' l₂ hle' hrest => .pure ((hhere.mono hle').append hrest)

/-- What an element puts in the place of a placeholder. -/
theorem shares_fillPlaceholder (scope : Scope) (frame : Frame) {p : Placeholder} (hp : SlotFree p.source) (l : Ledger) :
    Shares held held.Renumbers (fillPlaceholder scope frame p) (fillPlaceholder scope frame p) l := by
  have hsame : ∀ {t : Text}, SlotFree t → Shares held held.Renumbers (pure t) (pure t) l := fun ht =>
    .pure (.of_slotFree _ _ _ ht)
  unfold fillPlaceholder
  split
  · exact hsame hp
  · split
    · exact hsame (slotFree_of_plain (plain_ofNat _))
    · split
      · exact shares_holdValue _
      · split
        · exact shares_holdValue _
        · exact hsame hp

/-! ## Loops and passes -/

/-- A way to resolve texts that keeps renumbered texts renumbered. -/
def SharesTexts (held : Ledger) (step : Text → Resolve Text) : Prop :=
  ∀ t t' l, held.Renumbers l.slots.length t t' → Shares held held.Renumbers (step t) (step t') l

section Loops

variable {resolve : Scope → Text → Resolve Text} (hresolve : ∀ scope, SharesTexts held (resolve scope))

include hresolve

theorem shares_expandElement (scope : Scope) (frame : Frame) {body body' : Text} {l : Ledger}
    (hbody : held.Renumbers l.slots.length body body') :
    Shares held held.Renumbers (expandElement resolve scope body frame)
      (expandElement resolve scope body' frame) l := by
  refine (hresolve _ body body' l hbody).bind fun t t' l' _ ht => ?_
  refine shares_writeM ?_ (pieces_renumbered braced_placeholder? ended_placeholder? readsAlike_placeholder? ht) l'
    (Nat.le_refl _)
  rintro p p' l'' _ ⟨rfl, hp⟩
  exact shares_fillPlaceholder _ frame hp l''

theorem shares_expandElements (scope : Scope) : ∀ (items : List Value) (index : Nat) {body body' : Text} {l : Ledger},
    held.Renumbers l.slots.length body body' →
    Shares held held.Renumbers (expandElements resolve scope body index items)
      (expandElements resolve scope body' index items) l
  | [], _, _, _, _, _ => .pure .nil
  | item :: items, index, body, body', l, hbody => by
    refine (shares_expandElement hresolve scope ⟨index, item⟩ hbody).bind fun here here' l₁ hle hhere => ?_
    refine (shares_expandElements scope items (index + 1) (hbody.mono hle)).bind fun rest rest' l₂ hle' hrest => ?_
    exact .pure ((hhere.mono hle').append hrest)

theorem shares_expandLoop (scope : Scope) {loop loop' : Loop} {l : Ledger} (hn : n ≤ l.slots.length)
    (h : loop.Alike n 0 held.slots.length loop') :
    Shares held held.Renumbers (expandLoop resolve scope loop) (expandLoop resolve scope loop') l := by
  unfold expandLoop
  rw [← h.name]
  split
  · exact shares_expandElements hresolve scope _ 0 (h.body.mono hn)
  · exact .pure .nil

theorem shares_onePass (scope : Scope) : SharesTexts held (onePass resolve scope) := by
  intro t t' l ht
  have hchosen := resolveConditionals_renumbered false scope.holds (resolveConditionals_renumbered true scope.holds ht)
  exact shares_writeM (fun _ _ l' hn hloop => shares_expandLoop hresolve scope hn hloop)
    (pieces_renumbered braced_loop? ended_loop? readsAlike_loop? hchosen) l (Nat.le_refl _)

end Loops

/-- Passes settle in both, or in neither. -/
theorem shares_settle {step : Text → Resolve Text} (hstep : SharesTexts held step) :
    ∀ budget, SharesTexts held (settle step budget)
  | 0 => fun t t' l ht => shares_noteExhausted.bind fun _ _ l' hle _ => .pure (ht.mono hle)
  | budget + 1 => by
    intro t t' l ht
    refine (hstep t t' l ht).bind fun resolved resolved' l' hle hresolved => ?_
    have hsettled : resolved = t ↔ resolved' = t' := hresolved.eq_iff (ht.mono hle)
    by_cases h : resolved = t
    · rw [if_pos h, if_pos (hsettled.1 h)]
      exact .pure hresolved
    · rw [if_neg h, if_neg fun h' => h (hsettled.2 h')]
      exact shares_settle hstep budget resolved resolved' l' hresolved

/-- **Passes from held texts** do what they do without, under other numbers. -/
theorem shares_runPasses (budget : Nat) : ∀ (depth : Nat) (scope : Scope),
    SharesTexts held (runPasses budget depth scope)
  | 0, _ => fun _ _ _ _ => .throw .tooDeep
  | depth + 1, scope => shares_settle (shares_onePass (shares_runPasses budget depth) scope) budget

/-! ## Whole resolutions -/

/-- **Resolutions into slots agree with those on their own.** Where the resolution of a text on its own gives a result,
the resolution from any held texts, and any number of them, succeeds: it holds after them what it holds where nothing is
held before, and its text is the result once its tokens are replaced. -/
theorem resolveDirectives_shares (budget : PassBudget) {t : Text} (ht : SlotFree t) (vars : Fields) (held : Ledger)
    {r : Text} (h : (resolveDirectives budget.val t vars).alone = .ok r) :
    ∃ fresh new u l, (resolveDirectives budget.val t vars).run .empty = .ok fresh new ∧
      (resolveDirectives budget.val t vars).run held = .ok u l ∧ l.slots = held.slots ++ new.slots ∧
      (l.slots.length ≤ digitBound → l.slots.restore u = .ok r) := by
  obtain ⟨fresh, new, hfresh, hrestore⟩ := Resolve.alone_eq_ok_iff.1 h
  have hempty : held.before .empty = held := by simp [Ledger.before, Ledger.empty]
  have hshares : Shares held held.Renumbers (resolveDirectives budget.val t vars) (resolveDirectives budget.val t vars)
      .empty := shares_runPasses budget.val (depthAllowance t) (.outer vars) t t .empty (.of_slotFree _ _ _ ht)
  rw [Shares, hempty] at hshares
  rcases hshares with ⟨fresh', u, new', hfresh', hheld, -, hrel⟩ | ⟨fault, l, hfault, -⟩
  · rw [hfresh'] at hfresh
    cases hfresh
    refine ⟨fresh, new, u, held.before new, hfresh', hheld, rfl, fun hbound => ?_⟩
    have hcount : held.slots.length + new.slots.length ≤ digitBound := by
      rwa [Ledger.before, List.length_append] at hbound
    have hnew : ([] : Slots).length + new.slots.length ≤ digitBound := by
      rw [List.length_nil]
      omega
    have hsame : Slots.restore ([] ++ new.slots) fresh = Slots.restore (held.slots ++ new.slots) u :=
      Renumbered.restore_eq hrel (Nat.le_refl _) hnew hcount
    rw [Ledger.before, ← hsame]
    exact hrestore
  · rw [hfault] at hfresh
    cases hfresh

/-- Two loops, one in the other, and a conditional that is never closed. -/
def rowsThenUnclosed : Text :=
  "\x7b\x7b#each v\x7d\x7d\x7b\x7b#each this\x7d\x7d\x7b\x7bthis\x7d\x7d;".text
    ++ "\x7b\x7b/each\x7d\x7d\x7b\x7b/each\x7d\x7d\x7b\x7b#if v\x7d\x7d".text

/-- Two rows of texts, one of them with braces and one like a token. -/
def textRows : Fields :=
  [(.str ['v'], .list [.list [.str ['a'], .str "\x7b\x7bv".text], .list [.str (slotToken 0)]])]

theorem rowsThenUnclosed_shares : ∃ u l,
    (resolveDirectives 10 rowsThenUnclosed textRows).run ⟨[['x'], ['y']], 1⟩ = .ok u l ∧
    l.slots = [[Point.char 'x'], ['y'], ['a'], "\x7b\x7bv".text, slotToken 0] ∧
    l.slots.restore u = .ok ("a;\x7b\x7bv;".text ++ slotToken 0 ++ ";\x7b\x7b#if v\x7d\x7d".text) := by
  have halone : (resolveDirectives 10 rowsThenUnclosed textRows).alone
      = .ok ("a;\x7b\x7bv;".text ++ slotToken 0 ++ ";\x7b\x7b#if v\x7d\x7d".text) := rfl
  have hnew : (resolveDirectives 10 rowsThenUnclosed textRows).run .empty
      = .ok _ ⟨[['a'], "\x7b\x7bv".text, slotToken 0], 0⟩ := rfl
  obtain ⟨fresh, new, u, l, hfresh, hheld, hslots, hrestore⟩ :=
    resolveDirectives_shares defaultPasses (t := rowsThenUnclosed) (by decide) textRows ⟨[['x'], ['y']], 1⟩ halone
  have hsame : new = ⟨[['a'], "\x7b\x7bv".text, slotToken 0], 0⟩ := by
    have heq := hfresh.symm.trans hnew
    cases heq
    rfl
  rw [hsame] at hslots
  have hcount : l.slots.length ≤ digitBound := by
    rw [hslots]
    exact Nat.le_trans (by decide) ten_le_digitBound
  exact ⟨u, l, hheld, hslots, hrestore hcount⟩

end Stencil
