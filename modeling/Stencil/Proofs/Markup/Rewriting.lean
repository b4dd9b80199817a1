import Stencil.Proofs.Markup.Loose

/-!
# Rewriting trees

The three steps of a resolution on texts are steps on trees; each writes the tree that the step makes.

* **A turn over conditionals** (`choose`, `resolveConditionals_print`) puts a branch in the place of each conditional
  of the turn that does not stand in another one of the turn, nor in a loop.
* **Expanding loops** (`expandWith`, `replaceM_loop?_print`) puts a tree in the place of each outermost loop.
* **Filling placeholders** (`fillWith`, `replaceM_placeholder?_print`) puts texts in the places of placeholders. The
  marker between two branches reads as a placeholder: filled, it leaves a conditional with one branch.
-/

namespace Stencil

open Text (BraceFree pieces)

namespace Markup

/-! ## Conditionals -/

/-- A turn over the conditionals of a tree. -/
def choose (withElse : Bool) (holds : Text → Bool) : Markup → Markup
  | done => done
  | text t rest => text t (rest.choose withElse holds)
  | place n rest => place n (rest.choose withElse holds)
  | when n yes rest =>
    if withElse then when n (yes.choose withElse holds) (rest.choose withElse holds)
    else (if holds n then yes else done) ++ rest.choose withElse holds
  | choice n yes no rest =>
    if withElse then (if holds n then yes else no) ++ rest.choose withElse holds
    else choice n (yes.choose withElse holds) (no.choose withElse holds) (rest.choose withElse holds)
  | each n body rest => each n body (rest.choose withElse holds)

/-- What a turn writes for a piece. -/
def writeBlock (holds : Text → Bool) : Piece Block → Text
  | .char c => [c]
  | .item b => b.resolve holds

@[simp] theorem flatMap_chars (holds : Text → Bool) (t : Text) : (t.map Piece.char).flatMap (writeBlock holds) = t := by
  induction t with
  | nil => rfl
  | cons c cs ih => simp [writeBlock, ih]

theorem flatMap_cut (w : Bool) (holds : Text → Bool) : ∀ m : Markup,
    (m.cut (blockNode w) none).flatMap (writeBlock holds) = (m.choose w holds).print
  | done => rfl
  | text t rest => by simp [cut, choose, print, flatMap_cut w holds rest]
  | place n rest => by simp [cut, choose, print, blockNode, flatMap_cut w holds rest]
  | when n yes rest => by
    have ih := flatMap_cut w holds rest
    cases w with
    | true => simp [cut, choose, print, blockNode, flatMap_cut true holds yes, ih]
    | false =>
      cases hh : holds n <;>
        simp [cut, choose, print_append, blockNode, writeBlock, Block.resolve, Conditional.branch, ih, hh]
  | choice n yes no rest => by
    have ih := flatMap_cut w holds rest
    cases w with
    | true =>
      cases hh : holds n <;>
        simp [cut, choose, print_append, blockNode, writeBlock, Block.resolve, Conditional.branch, ih, hh]
    | false =>
      simp [cut, choose, print, blockNode, splitPieces, flatMap_cut false holds yes, flatMap_cut false holds no, ih]
  | each n body rest => by
    simp [cut, choose, print, blockNode, writeBlock, Block.resolve, flatMap_cut w holds rest]

theorem choose_append (w : Bool) (holds : Text → Bool) (b : Markup) : ∀ a : Markup,
    (a ++ b).choose w holds = a.choose w holds ++ b.choose w holds
  | done => rfl
  | text t rest => by simp [choose, choose_append w holds b rest]
  | place n rest => by simp [choose, choose_append w holds b rest]
  | when n yes rest => by
    cases w <;> simp [choose, choose_append _ holds b rest, append_assoc]
  | choice n yes no rest => by
    cases w <;> simp [choose, choose_append _ holds b rest, append_assoc]
  | each n body rest => by simp [choose, choose_append w holds b rest]

/-- A turn over the conditionals of a written tree writes the tree after the turn. -/
theorem resolveConditionals_print {l : Branch} {m : Markup} (hm : m.Loose BraceFree l) (w : Bool)
    (holds : Text → Bool) : resolveConditionals w holds m.print = (m.choose w holds).print := by
  rw [← flatMap_cut, ← pieces_loose_whole (readsLoose_block? w) hm, resolveConditionals, Text.replace]
  refine congrArg (List.flatMap · _) (funext fun piece => ?_)
  cases piece <;> rfl

/-! ## Loops -/

section Effects

variable {M : Type → Type} [Monad M]

/-- The tree with another in the place of each loop that stands in no other loop. -/
def expandWith (f : Text → Markup → M Markup) : Markup → M Markup
  | done => pure done
  | text t rest => do return text t (← rest.expandWith f)
  | place n rest => do return place n (← rest.expandWith f)
  | when n yes rest => do
    let yes ← yes.expandWith f
    return when n yes (← rest.expandWith f)
  | choice n yes no rest => do
    let yes ← yes.expandWith f
    let no ← no.expandWith f
    return choice n yes no (← rest.expandWith f)
  | each n body rest => do
    let here ← f n body
    return here ++ (← rest.expandWith f)

/-- A placeholder or the text that answers it, before a tree. -/
def filled (n : Text) (rest : Markup) : Option Text → Markup
  | some t => text t rest
  | none => place n rest

/-- A conditional with the text that answers the marker between its branches, if one does. -/
def joined (n : Text) (yes no rest : Markup) : Option Text → Markup
  | some t => when n (yes ++ text t no) rest
  | none => choice n yes no rest

theorem print_filled (n : Text) (rest : Markup) (o : Option Text) :
    (filled n rest o).print = o.getD (placeText n) ++ rest.print := by
  cases o <;> rfl

theorem print_joined (n : Text) (yes no rest : Markup) (o : Option Text) :
    (joined n yes no rest o).print = openText .conditional n
      ++ (yes.print ++ (o.getD elseText ++ (no.print ++ (conditionalMarkers.closing ++ rest.print)))) := by
  cases o <;> simp [joined, print, print_append]

/-- The tree with texts in the places of the placeholders that are answered. -/
def fillWith (answer : Text → M (Option Text)) : Markup → M Markup
  | done => pure done
  | text t rest => do return text t (← rest.fillWith answer)
  | place n rest => do
    let here ← answer n
    return filled n (← rest.fillWith answer) here
  | when n yes rest => do
    let yes ← yes.fillWith answer
    return when n yes (← rest.fillWith answer)
  | choice n yes no rest => do
    let yes ← yes.fillWith answer
    let split ← answer elseName
    let no ← no.fillWith answer
    return joined n yes no (← rest.fillWith answer) split
  | each n body rest => do
    let body ← body.fillWith answer
    return each n body (← rest.fillWith answer)

variable [LawfulMonad M]

theorem writeM_cut_loop {f : Text → Markup → M Markup} {write : Loop → M Text}
    (h : ∀ n body, body.Formed BraceFree → write ⟨n, body.print⟩ = print <$> f n body) :
    ∀ m : Markup, m.Formed BraceFree → Text.writeM write (m.cut loopNode none) = print <$> m.expandWith f
  | done, _ => by simp [cut, expandWith, Text.writeM, print]
  | text t rest, ⟨_, hr⟩ => by
    simp [cut, expandWith, Text.writeM_append, writeM_cut_loop h rest hr, print]
  | place n rest, ⟨_, _, hr⟩ => by
    simp [cut, expandWith, loopNode, Text.writeM_append, writeM_cut_loop h rest hr, print]
  | when n yes rest, ⟨_, hy, hr⟩ => by
    simp [cut, expandWith, loopNode, Text.writeM_append, writeM_cut_loop h yes hy, writeM_cut_loop h rest hr, print]
  | choice n yes no rest, ⟨_, hy, hno, hr⟩ => by
    simp [cut, expandWith, loopNode, splitPieces, Text.writeM_append, writeM_cut_loop h yes hy,
      writeM_cut_loop h no hno, writeM_cut_loop h rest hr, print]
  | each n body rest, ⟨_, hb, hr⟩ => by
    simp [cut, expandWith, loopNode, Text.writeM, h n body hb, writeM_cut_loop h rest hr, print_append]

theorem expandWith_append (f : Text → Markup → M Markup) (b : Markup) : ∀ a : Markup,
    (a ++ b).expandWith f = do
      let a ← a.expandWith f
      let b ← b.expandWith f
      return a ++ b
  | done => by simp [-bind_pure_comp, expandWith]
  | text t rest => by simp [-bind_pure_comp, expandWith, expandWith_append f b rest]
  | place n rest => by simp [-bind_pure_comp, expandWith, expandWith_append f b rest]
  | when n yes rest => by simp [-bind_pure_comp, expandWith, expandWith_append f b rest]
  | choice n yes no rest => by simp [-bind_pure_comp, expandWith, expandWith_append f b rest]
  | each n body rest => by simp [-bind_pure_comp, expandWith, expandWith_append f b rest, append_assoc]

/-- Replacing the loops of a written tree writes the expanded tree. -/
theorem replaceM_loop?_print {f : Text → Markup → M Markup} {write : Loop → M Text}
    (h : ∀ n body, body.Formed BraceFree → write ⟨n, body.print⟩ = print <$> f n body) {l : Branch} {m : Markup}
    (hm : m.Loose BraceFree l) : Text.replaceM loop? write m.print = print <$> m.expandWith f := by
  rw [Text.replaceM, pieces_loose_whole readsLoose_loop? hm]
  induction hm with
  | formed hm => exact writeM_cut_loop h _ hm
  | append _ _ iha ihb =>
    rw [cut_append, Text.writeM_append, iha, ihb, expandWith_append]
    simp [print_append]
  | stray _ => simp [cut, expandWith, print]
  | choice hn _ _ ihy ihno =>
    simp [cut, expandWith, loopNode, splitPieces, Text.writeM_append, ihy, ihno, print]

theorem writeM_cut_place {answer : Text → M (Option Text)} {write : Placeholder → M Text}
    (h : ∀ p, write p = (·.getD p.source) <$> answer p.name) :
    ∀ m : Markup, Text.writeM write (m.cut placeNode (some ⟨elseName, elseText⟩)) = print <$> m.fillWith answer
  | done => by simp [cut, fillWith, Text.writeM, print]
  | text t rest => by
    simp [cut, fillWith, Text.writeM_append, writeM_cut_place h rest, print]
  | place n rest => by
    simp [cut, fillWith, placeNode, Text.writeM, h, writeM_cut_place h rest, print_filled]
  | when n yes rest => by
    simp [cut, fillWith, placeNode, Text.writeM_append, writeM_cut_place h yes, writeM_cut_place h rest, print]
  | choice n yes no rest => by
    simp [cut, fillWith, placeNode, splitPieces, Text.writeM_append, Text.writeM, h, writeM_cut_place h yes,
      writeM_cut_place h no, writeM_cut_place h rest, print_joined]
  | each n body rest => by
    simp [cut, fillWith, placeNode, Text.writeM_append, writeM_cut_place h body, writeM_cut_place h rest, print]

/-- Replacing the placeholders of a written tree writes the filled tree. -/
theorem replaceM_placeholder?_print {answer : Text → M (Option Text)} {write : Placeholder → M Text}
    (h : ∀ p, write p = (·.getD p.source) <$> answer p.name) {m : Markup} (hm : m.Formed BraceFree) :
    Text.replaceM placeholder? write m.print = print <$> m.fillWith answer := by
  have hp := pieces_print reads_placeholder? m [] hm
  rw [List.append_nil, Text.pieces_nil, List.append_nil] at hp
  rw [Text.replaceM, hp, writeM_cut_place h m]

end Effects

end Markup

end Stencil
