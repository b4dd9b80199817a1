import Stencil.Proofs.Directive.Steps

/-!
# Resolving written trees

* The passes over a written tree write the tree that the passes over the tree make (`runPasses_print`), for every
  budget, also where it runs out.
-/

namespace Stencil

open Text (BraceFree)

theorem fillPlaceholder_eq (scope : Scope) (frame : Frame) (p : Placeholder) :
    fillPlaceholder scope frame p = (·.getD p.source) <$> scope.answer? frame p.name := by
  by_cases hreserved : reservedNames.contains p.name = true
  · simp only [fillPlaceholder, Scope.answer?, hreserved, if_true]
    rfl
  by_cases hindex : p.name = indexName
  · simp only [fillPlaceholder, Scope.answer?, hindex, if_true]
    rfl
  by_cases hthis : p.name = thisName ∨ thisPoint.isPrefixOf p.name = true
  · simp only [fillPlaceholder, Scope.answer?, if_neg hreserved, if_neg hindex, if_pos hthis, Functor.map_map,
      Option.getD_some, id_map']
  · simp only [fillPlaceholder, Scope.answer?, if_neg hreserved, if_neg hindex, if_neg hthis]
    cases frame.fields.get? p.name with
    | some v => simp only [Functor.map_map, Option.getD_some, id_map']
    | none => rfl

namespace Markup

/-! ## Steps on written trees -/

section Steps

variable {onText : Scope → Text → Resolve Text} {onTree : Scope → Markup → Resolve Markup}

/-- Resolving a written tree writes the resolved tree. -/
def Writes (onText : Scope → Text → Resolve Text) (onTree : Scope → Markup → Resolve Markup) : Prop :=
  ∀ s m, m.Formed BraceFree → onText s m.print = print <$> onTree s m

/-- Resolving keeps trees free of braces in their texts. -/
abbrev KeepsBraceFree (onTree : Scope → Markup → Resolve Markup) : Prop := KeepsFormed (fun _ => BraceFree) onTree

theorem ensures_braceFree {x : Resolve Markup} (hx : ∀ l, LeavesFormed (fun _ => BraceFree) x l) :
    x.Ensures (Formed BraceFree) :=
  fun l => (hx l).mono fun _ _ h => h.2

theorem expandElement_print (hw : Writes onText onTree) (hk : KeepsBraceFree onTree) (scope : Scope) {body : Markup}
    (hb : body.Formed BraceFree) (frame : Frame) :
    expandElement onText scope body.print frame = print <$> resolveElement onTree scope body frame := by
  simp only [expandElement, resolveElement, hw _ _ hb, bind_map_left, map_bind]
  refine Resolve.bind_congr_of_ensures (ensures_braceFree fun l => hk _ _ l hb) fun m hm => ?_
  exact replaceM_placeholder?_print (fillPlaceholder_eq _ frame) hm

theorem expandElements_print (hw : Writes onText onTree) (hk : KeepsBraceFree onTree) (scope : Scope) {body : Markup}
    (hb : body.Formed BraceFree) : ∀ (index : Nat) (items : List Value),
    expandElements onText scope body.print index items = print <$> resolveElements onTree scope body index items
  | _, [] => rfl
  | index, item :: items => by
    simp [expandElements, resolveElements, expandElement_print hw hk scope hb,
      expandElements_print hw hk scope hb (index + 1) items, print_append]

theorem expandLoop_print (hw : Writes onText onTree) (hk : KeepsBraceFree onTree) (scope : Scope) (n : Text)
    {body : Markup} (hb : body.Formed BraceFree) :
    expandLoop onText scope ⟨n, body.print⟩ = print <$> resolveLoop onTree scope n body := by
  cases hitems : (scope.lookup n).elements? with
  | some items =>
    simp only [expandLoop, resolveLoop, hitems]
    exact expandElements_print hw hk scope hb 0 items
  | none =>
    simp only [expandLoop, resolveLoop, hitems]
    rfl

theorem onePass_print (hw : Writes onText onTree) (hk : KeepsBraceFree onTree) (scope : Scope) {l : Branch} {m : Markup}
    (hm : m.Loose BraceFree l) : onePass onText scope m.print = print <$> pass onTree scope m := by
  have hround : resolveConditionals false scope.holds (resolveConditionals true scope.holds m.print)
      = (m.round scope.holds).print := by
    rw [resolveConditionals_print hm, resolveConditionals_print (hm.choose_true scope.holds)]
    rfl
  rw [onePass, hround]
  exact replaceM_loop?_print (fun n _ hb => expandLoop_print hw hk scope n hb) (hm.round scope.holds)

/-- Steps that write the steps on trees of some form, and keep the form, settle to what the trees settle to. -/
theorem settle_print {q : Markup → Prop} {onText : Text → Resolve Text} {onTree : Markup → Resolve Markup}
    (hw : ∀ m, q m → onText m.print = print <$> onTree m) (hk : ∀ m, q m → (onTree m).Ensures q) :
    ∀ (budget : Nat) {m : Markup}, q m → Stencil.settle onText budget m.print = print <$> settle onTree budget m
  | 0, _, _ => by simp [Stencil.settle, settle]
  | budget + 1, m, hm => by
    simp only [Stencil.settle, settle, hw m hm, bind_map_left, map_bind]
    refine Resolve.bind_congr_of_ensures (hk m hm) fun m' hm' => ?_
    split
    · rfl
    · exact settle_print hw hk budget hm'

end Steps

/-! ## Whole runs -/

theorem keepsBraceFree_resolve (budget depth : Nat) : KeepsBraceFree (resolve budget depth) :=
  keepsFormed_resolve Slots.admits_braceFree budget depth

/-- **Passes over a written tree** write the tree that the passes over the tree make. -/
theorem runPasses_print (budget : Nat) : ∀ depth, Writes (runPasses budget depth) (resolve budget depth)
  | 0 => fun _ _ _ => rfl
  | depth + 1 => fun s _ hm => settle_print
    (fun _ h => onePass_print (l := .outside) (runPasses_print budget depth) (keepsBraceFree_resolve budget depth) s
      (.formed h))
    (fun _ h => ensures_braceFree fun l =>
      keepsFormed_pass Slots.admits_braceFree (keepsBraceFree_resolve budget depth) s _ l h) budget hm

theorem WellFormed.braceFree {m : Markup} (hm : m.WellFormed) : m.Formed BraceFree :=
  ((formed_plain_iff m).2 hm).mono fun _ h => h.braceFree

/-- Resolving a written template writes the resolved tree. -/
theorem resolveDirectives_print {m : Markup} (hm : m.Formed BraceFree) (budget : Nat) (vars : Fields) :
    resolveDirectives budget m.print vars = print <$> resolve budget (depthAllowance m.print) (.outer vars) m :=
  runPasses_print budget _ _ _ hm

/-- The allowance has more levels than loops nest in a written tree. -/
theorem loopDepth_lt_depthAllowance (m : Markup) : m.loopDepth < depthAllowance m.print := by
  have := loopDepth_le_length m
  rw [depthAllowance]
  omega

end Markup

end Stencil
