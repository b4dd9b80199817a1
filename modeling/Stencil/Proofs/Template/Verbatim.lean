import Stencil.Proofs.Directive.Faults
import Stencil.Proofs.Directive.OnTrees
import Stencil.Proofs.Slots.Weaving
import Stencil.Template.Engine

/-!
# When values are shown verbatim

A render puts values into one text at two times: those of placeholders while the tokens of loop elements still stand in
it, and those of the elements last.

* **Documents** (`Slots.document`): what a resolved text shows if no value is read again.
* **Rendering verbatim** (`Engine.RendersVerbatim`): a render gives that document. It does where no value put in for a
  placeholder holds the opening slot character, and where none holds the closing one (`renders_verbatim`).
* A value that is a token itself is taken for one (`forged_not_verbatim`), so no more can be said of all values
  (`renders_verbatim_iff`).
-/

namespace Stencil

open Markup

/-! ## Documents -/

namespace Slots

variable {s : Slots} {t filled : Text}

/-- The document of a resolved text when no value put in place is read: its tokens and its placeholders are replaced in
one scan, and a token of too many digits is refused. -/
def document (s : Slots) (vars : Fields) (metadata : Metadata) (resolved : Text) : Except Fault Text :=
  match s.weave vars metadata resolved with
  | .error fault => .error (.value fault)
  | .ok document =>
    match overlong? resolved with
    | some count => .error (.overlongToken count)
    | none => .ok document

/-- Restoring refuses the tokens that an issued text has too long, and fills otherwise. -/
theorem restore_of_issued (ht : Issued s.length t) (h : overlong? filled = overlong? t) :
    s.restore filled = match overlong? t with
      | some count => .error count
      | none => .ok (s.fill filled) := by
  cases hlong : overlong? t with
  | none => exact s.restore_eq_fill (h.trans hlong)
  | some count =>
    have hpos : 0 < s.length := by
      refine Nat.pos_of_ne_zero fun hs => ?_
      have hnone : overlong? t = none := overlong?_of_issued ht (hs ▸ Nat.zero_le _)
      rw [hlong] at hnone
      cases hnone
    exact restore_eq_error hpos (h.trans hlong)

end Slots

/-! ## Renders -/

namespace Engine

section Renders

variable {value after : Text → Prop}

/-- A resolved body whose tokens are all issued is filled to its document, where the values put in are guarded. -/
theorem run_fillBody {budget : Nat} {body resolved : Text} {vars : Fields} {metadata : Metadata} {l ledger : Ledger}
    (h : (resolveDirectives budget body vars).run l = .ok resolved ledger) (ht : Issued ledger.slots.length resolved)
    (hg : Slots.Guard value after) (hv : Slots.Shows vars metadata value) :
    (fillBody budget body vars metadata).run l = match ledger.slots.document vars metadata resolved with
      | .ok document => .ok document ledger
      | .error fault => .error fault ledger := by
  have hwoven := Slots.woven_of_issued hg hv resolved ht
  unfold Slots.Woven at hwoven
  rw [fillBody, Resolve.run_bind_ok h, Slots.document]
  cases hsub : substitute resolved vars metadata with
  | error fault =>
    rw [hsub] at hwoven
    have hw : ledger.slots.weave vars metadata resolved = .error fault := hwoven
    rw [hw]
    rfl
  | ok filled =>
    rw [hsub] at hwoven
    obtain ⟨hw, -, hlong⟩ := hwoven
    have hget : EStateM.run (get : Resolve Ledger) ledger = .ok ledger ledger := rfl
    simp only
    rw [Resolve.run_bind_ok hget, Slots.restore_of_issued ht hlong, hw]
    cases Slots.overlong? resolved <;> rfl

/-- The resolved body of a template with what was held for it, or the fault that stopped its resolution. -/
def resolution (e : Engine) (t : Template) (context : Context) : EStateM.Result Fault Ledger Text :=
  (resolveDirectives e.passes.val t.body (e.effectiveVariables t context.vars)).run .empty

/-- A render of a template shows all values verbatim. -/
structure RendersVerbatim (e : Engine) (name : Text) (t : Template) (context : Context) : Prop where
  /-- Every token of the resolved body was issued while the body was resolved. -/
  issued {resolved : Text} {ledger : Ledger} : e.resolution t context = .ok resolved ledger →
    Issued ledger.slots.length resolved
  /-- The render is the document of the resolved body. -/
  shown {resolved : Text} {ledger : Ledger} : e.resolution t context = .ok resolved ledger →
    e.render name context = (ledger.slots.document (e.effectiveVariables t context.vars) context.metadata
      resolved).mapError (renderFault name)
  /-- Only a value that does not print stops the resolution, and it is the error of the render. -/
  stopped {fault : Fault} {ledger : Ledger} : e.resolution t context = .error fault ledger →
    (∃ why, fault = .value why) ∧ e.render name context = .error (renderFault name fault)

variable {e : Engine} {name : Text} {t : Template} {context : Context} {m : Markup}

theorem render_eq (ht : e.registry.get? name = some t)
    (hpresent : missing t (e.effectiveVariables t context.vars) = []) :
    e.render name context = match (fillBody e.passes.val t.body (e.effectiveVariables t context.vars)
        context.metadata).run .empty with
      | .ok document _ => .ok document
      | .error fault _ => .error (renderFault name fault) := by
  simp only [render, attempt, ht, hpresent, List.isEmpty_nil, Bool.not_true, Bool.false_eq_true, if_false]
  split <;> simp [*]

/-- The tokens of a resolved template were issued while it was resolved. -/
theorem issued_resolveDirectives {budget : Nat} {vars : Fields} (hm : m.WellFormed) {resolved : Text} {ledger : Ledger}
    (h : (resolveDirectives budget m.print vars).run .empty = .ok resolved ledger) :
    Issued ledger.slots.length resolved := by
  rw [resolveDirectives_print hm.braceFree] at h
  obtain ⟨m', hm', rfl⟩ := Resolve.run_map_eq_ok h
  have hheld : m.Formed Ledger.empty.slots.Held := ((formed_plain_iff m).2 hm).mono fun _ h => .inl h
  exact issued_print (keepsFormed_resolve Slots.admits_held _ _ _ m .empty hheld m' ledger hm').2

theorem issued_resolution (hbody : t.body = m.print) (hm : m.WellFormed) {resolved : Text} {ledger : Ledger}
    (h : e.resolution t context = .ok resolved ledger) : Issued ledger.slots.length resolved := by
  rw [resolution, hbody] at h
  exact issued_resolveDirectives hm h

/-- The allowance is enough for a written template, so that only its values can stop the resolution. -/
theorem value_of_resolution_eq_error (hbody : t.body = m.print) (hm : m.WellFormed) {fault : Fault} {ledger : Ledger}
    (h : e.resolution t context = .error fault ledger) : ∃ why, fault = .value why := by
  have havoids : (resolve e.passes.val (depthAllowance m.print) (.outer (e.effectiveVariables t context.vars)) m).Avoids
      fun fault => ¬∃ why, fault = .value why :=
    avoids_resolve_of_value (fun why hbad => hbad ⟨why, rfl⟩) e.passes.property (loopDepth_lt_depthAllowance m) _
  rw [resolution, hbody, resolveDirectives_print hm.braceFree] at h
  exact Classical.not_not.1 (havoids .empty fault ledger (Resolve.run_map_eq_error h))

/-- **Guarded values are shown verbatim.** -/
theorem renders_verbatim (ht : e.registry.get? name = some t)
    (hpresent : missing t (e.effectiveVariables t context.vars) = []) (hbody : t.body = m.print) (hm : m.WellFormed)
    (hg : Slots.Guard value after) (hv : Slots.Shows (e.effectiveVariables t context.vars) context.metadata value) :
    e.RendersVerbatim name t context where
  issued h := issued_resolution hbody hm h
  shown {resolved ledger} h := by
    rw [render_eq ht hpresent, run_fillBody h (issued_resolution hbody hm h) hg hv]
    cases ledger.slots.document (e.effectiveVariables t context.vars) context.metadata resolved <;> rfl
  stopped {fault ledger} h := by
    refine ⟨value_of_resolution_eq_error hbody hm h, ?_⟩
    have hfill : (fillBody e.passes.val t.body (e.effectiveVariables t context.vars) context.metadata).run .empty
        = .error fault ledger := Resolve.run_bind_error h _
    rw [render_eq ht hpresent, hfill]

end Renders

/-! ## A forged token -/

/-- A loop that shows its elements, and after it a value. -/
def signed : Template := ⟨"signed".text, .generic, (forEach "rows" (slot "this") ++ slot "sign").print, []⟩

def signedEngine : Engine := ⟨⟨⟨[(signed.name, signed)], by simp⟩, .empty⟩, defaultPasses⟩

/-- The sign is the token of the element. -/
def forgedContext : Context where
  vars := [(.str "rows".text, .list [.str "Ada".text]), (.str "sign".text, .str (slotToken 0))]
  metadata := ⟨.str "now".text, .str Metadata.defaultVersion, .str Metadata.defaultSource⟩

/-- The sign is shown as the element. -/
theorem forged_not_verbatim : ¬signedEngine.RendersVerbatim signed.name signed forgedContext := by
  intro h
  have hresolved : ∃ ledger, signedEngine.resolution signed forgedContext
      = .ok (slotToken 0 ++ "{{sign}}".text) ledger ∧ ledger.slots = ["Ada".text] := ⟨_, rfl, rfl⟩
  obtain ⟨ledger, hrun, hslots⟩ := hresolved
  have hrender : signedEngine.render signed.name forgedContext = .ok "AdaAda".text := rfl
  have hdocument : Slots.document ["Ada".text] (signedEngine.effectiveVariables signed forgedContext.vars)
      forgedContext.metadata (slotToken 0 ++ "{{sign}}".text) = .ok ("Ada".text ++ slotToken 0) := rfl
  have hshown := h.shown hrun
  rw [hrender, hslots, hdocument] at hshown
  have hsame : "AdaAda".text = "Ada".text ++ slotToken 0 := Except.ok.inj hshown
  exact absurd hsame (by decide)

/-- A text in which the slot characters may occur or not. -/
def MayHold (opening closing : Bool) (u : Text) : Prop := (slotOpen ∈ u → opening) ∧ (slotClose ∈ u → closing)

/-- **When values are shown verbatim**: for all templates and all values in which the slot characters may occur exactly
where not both of them may. Values of loop elements may hold any characters. -/
theorem renders_verbatim_iff (opening closing : Bool) :
    (∀ (e : Engine) (name : Text) (t : Template) (context : Context) (m : Markup), e.registry.get? name = some t →
      missing t (e.effectiveVariables t context.vars) = [] → t.body = m.print → m.WellFormed →
      Slots.Shows (e.effectiveVariables t context.vars) context.metadata (MayHold opening closing) →
      e.RendersVerbatim name t context) ↔ ¬(opening ∧ closing) := by
  constructor
  · rintro h ⟨rfl, rfl⟩
    refine forged_not_verbatim (h signedEngine signed.name signed forgedContext _ rfl rfl rfl ?_ ?_)
    · simp [forEach, slot, WellFormed]
      decide
    · exact fun _ _ _ _ _ => ⟨fun _ => rfl, fun _ => rfl⟩
  · intro h e name t context m ht hpresent hbody hm hv
    cases opening with
    | false =>
      refine renders_verbatim ht hpresent hbody hm Slots.guard_not_open fun name v u hvalue hu hopen => ?_
      exact Bool.false_ne_true ((hv name v u hvalue hu).1 hopen)
    | true =>
      refine renders_verbatim ht hpresent hbody hm Slots.guard_not_close fun name v u hvalue hu hclose => ?_
      exact h ⟨rfl, (hv name v u hvalue hu).2 hclose⟩

end Engine

end Stencil
