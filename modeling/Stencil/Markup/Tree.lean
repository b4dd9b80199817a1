import Stencil.Markup.Tag
import Stencil.Slots

/-!
# Templates as trees

* **Trees** (`Markup`): sequences of texts, placeholders, conditionals and loops, nested to any depth.
* **Written form** (`Markup.print`): a tree as the text of a template.
* **Well-formed trees** (`Markup.WellFormed`): texts without braces and slot characters, names of the tag grammar, and
  no placeholder that reads as the marker between two branches.
* **Depth** (`Markup.depth`): the deepest nesting of conditionals outside loops, and the deepest inside one loop body.
-/

namespace Stencil

/-- A template as a tree. Each node comes with the nodes after it. -/
inductive Markup where
  | done
  | text (t : Text) (rest : Markup)
  | place (name : Text) (rest : Markup)
  /-- A conditional with one branch. -/
  | when (name : Text) (yes rest : Markup)
  /-- A conditional with two branches. -/
  | choice (name : Text) (yes no rest : Markup)
  | each (name : Text) (body rest : Markup)
  deriving DecidableEq, Repr

namespace Markup

/-! ## Building -/

/-- One tree after another. -/
def append : Markup → Markup → Markup
  | done, m => m
  | text t rest, m => text t (rest.append m)
  | place name rest, m => place name (rest.append m)
  | when name yes rest, m => when name yes (rest.append m)
  | choice name yes no rest, m => choice name yes no (rest.append m)
  | each name body rest, m => each name body (rest.append m)

instance : Append Markup := ⟨append⟩

/-- A text. -/
def lit (s : String) : Markup := text s.text done

/-- A placeholder. -/
def slot (name : String) : Markup := place name.text done

/-- A conditional with one branch. -/
def onlyIf (name : String) (yes : Markup) : Markup := when name.text yes done

/-- A conditional with two branches. -/
def ifElse (name : String) (yes no : Markup) : Markup := choice name.text yes no done

/-- A loop. -/
def forEach (name : String) (body : Markup) : Markup := each name.text body done

/-! ## Writing -/

/-- The written form of a placeholder. -/
def placeText (name : Text) : Text := '{' :: '{' :: (name ++ [Point.char '}', '}'])

/-- The written form of an opening tag. -/
def openText (kind : TagKind) (name : Text) : Text :=
  '{' :: '{' :: '#' :: (kind.word ++ Point.char ' ' :: (name ++ [Point.char '}', '}']))

/-- The marker between two branches. -/
def elseText : Text := conditionalMarkers.alternative.getD []

/-- The written form of a tree. -/
def print : Markup → Text
  | done => []
  | text t rest => t ++ rest.print
  | place name rest => placeText name ++ rest.print
  | when name yes rest =>
    openText .conditional name ++ yes.print ++ conditionalMarkers.closing ++ rest.print
  | choice name yes no rest =>
    openText .conditional name ++ yes.print ++ elseText ++ no.print ++ conditionalMarkers.closing ++ rest.print
  | each name body rest => openText .loop name ++ body.print ++ loopMarkers.closing ++ rest.print

/-! ## Well-formed trees -/

/-- The characters that a text of a well-formed tree does not hold. -/
def isMarkupChar (c : Point) : Bool := c = '{' || c = '}' || c = slotOpen || c = slotClose

/-- The name of a placeholder that would read as the marker between two branches. -/
def elseName : Text := ['e', 'l', 's', 'e']

/-- A tree that its written form determines. -/
def WellFormed : Markup → Prop
  | done => True
  | text t rest => (∀ c ∈ t, isMarkupChar c = false) ∧ rest.WellFormed
  | place name rest => IsName name ∧ name ≠ elseName ∧ rest.WellFormed
  | when name yes rest => IsName name ∧ yes.WellFormed ∧ rest.WellFormed
  | choice name yes no rest => IsName name ∧ yes.WellFormed ∧ no.WellFormed ∧ rest.WellFormed
  | each name body rest => IsName name ∧ body.WellFormed ∧ rest.WellFormed

/-- A tree without loops. -/
def LoopFree : Markup → Prop
  | done => True
  | text _ rest => rest.LoopFree
  | place _ rest => rest.LoopFree
  | when _ yes rest => yes.LoopFree ∧ rest.LoopFree
  | choice _ yes no rest => yes.LoopFree ∧ no.LoopFree ∧ rest.LoopFree
  | each .. => False

/-! ## Depth -/

/-- The nesting of conditionals outside all loops of a tree. -/
def outerDepth : Markup → Nat
  | done => 0
  | text _ rest => rest.outerDepth
  | place _ rest => rest.outerDepth
  | when _ yes rest => max (yes.outerDepth + 1) rest.outerDepth
  | choice _ yes no rest => max (max yes.outerDepth no.outerDepth + 1) rest.outerDepth
  | each _ _ rest => rest.outerDepth

/-- The deepest nesting of conditionals that crosses no loop, anywhere in a tree. -/
def depth : Markup → Nat
  | done => 0
  | text _ rest => rest.depth
  | place _ rest => rest.depth
  | when name yes rest => max (max yes.depth rest.depth) (when name yes rest).outerDepth
  | choice name yes no rest =>
    max (max (max yes.depth no.depth) rest.depth) (choice name yes no rest).outerDepth
  | each _ body rest => max body.depth rest.depth

/-- The nesting of loops. -/
def loopDepth : Markup → Nat
  | done => 0
  | text _ rest => rest.loopDepth
  | place _ rest => rest.loopDepth
  | when _ yes rest => max yes.loopDepth rest.loopDepth
  | choice _ yes no rest => max (max yes.loopDepth no.loopDepth) rest.loopDepth
  | each _ body rest => max (body.loopDepth + 1) rest.loopDepth

/-! ## Appending and writing -/

@[simp] theorem done_append (m : Markup) : done ++ m = m := rfl

/-- The written form of two trees is that of the first and then that of the second. -/
theorem print_append (m m' : Markup) : (m ++ m').print = m.print ++ m'.print := by
  show (m.append m').print = m.print ++ m'.print
  induction m with
  | done => rfl
  | text t rest ih => simp [append, print, ih]
  | place name rest ih => simp [append, print, ih]
  | when name yes rest _ ih => simp [append, print, ih]
  | choice name yes no rest _ _ ih => simp [append, print, ih]
  | each name body rest _ ih => simp [append, print, ih]

end Markup

end Stencil
