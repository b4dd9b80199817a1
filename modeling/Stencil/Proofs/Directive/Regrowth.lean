import Stencil.Proofs.Directive.Descent

/-!
# A template that grows again

A loop body may put a text together that is a loop around the loop it stands in.

* **The seed** (`Regrowth.seed`) is a loop over fragments of tags. Its body shows the fragment that the element names,
  by conditionals whose branches are fragments (`onePass_body`).
* The elements spell the seed inside one more loop (`Regrowth.grown`), so that a pass over the seed gives that text
  (`onePass_seed`), and a second pass resolves the seed again, one level deeper.
* With two passes or more no number of levels is enough for the seed (`runs_out`). So a budget of one pass is the only
  one with which every text terminates (`terminates_iff`).
-/

namespace Stencil

open Text (pieces)

namespace Regrowth

/-! ## Fragments of tags -/

/-- A fragment of a tag. -/
inductive Fragment where
  | opening
  | closing
  | ending
  | ifWord
  | eachWord
  | loopName
  | field
  deriving DecidableEq

namespace Fragment

def text : Fragment → Text
  | opening => ['{', '{', '#']
  | closing => ['{', '{', '/']
  | ending => ['}', '}']
  | ifWord => ['i', 'f']
  | eachWord => ['e', 'a', 'c', 'h']
  | loopName => [' ', 'w']
  | field => [' ', 't', 'h', 'i', 's', '.']

/-- The name of the field that an element asks for a fragment with, spelled by fragments. -/
def key : Fragment → List Fragment
  | opening => [ifWord]
  | closing => [eachWord]
  | ending => [ifWord, ifWord]
  | ifWord => [ifWord, eachWord]
  | eachWord => [eachWord, ifWord]
  | loopName => [eachWord, eachWord]
  | field => [ifWord, ifWord, ifWord]

def all : List Fragment := [opening, closing, ending, ifWord, eachWord, loopName, field]

/-- The text that fragments spell. -/
def spell (fs : List Fragment) : Text := fs.flatMap text

/-- A conditional on the field of a fragment, around the fragment. -/
def shown (f : Fragment) : List Fragment := [opening, ifWord, field] ++ f.key ++ [ending, f, closing, ifWord, ending]

/-- A loop around fragments. -/
def looped (body : List Fragment) : List Fragment :=
  [opening, eachWord, loopName, ending] ++ body ++ [closing, eachWord, ending]

/-- The element that asks for a fragment. -/
def element (f : Fragment) : Value := .record [(.str (spell f.key), .bool true)]

end Fragment

open Fragment

/-- The body of the seed shows the fragment that an element asks for. -/
def body : List Fragment := all.flatMap shown

def seed : List Fragment := looped body

/-- The seed inside one more loop. -/
def grown : List Fragment := looped seed

/-- Elements that ask for the fragments of the grown text. -/
def elements : List Value := grown.map element

def requests : Fields := [(.str ['w'], .list elements)]

/-! ## What is read in the texts -/

theorem pieces_body_true : pieces (block? true) (spell body) = (spell body).map .char := by decide +kernel

theorem pieces_body_false : pieces (block? false) (spell body) =
    all.map fun f => .item (.choice ⟨thisPoint ++ spell f.key, f.text, none⟩) := by decide +kernel

theorem pieces_seed (w : Bool) : pieces (block? w) (spell seed) = [.item (.loop (spell seed))] := by
  cases w <;> decide +kernel

theorem loops_seed : pieces loop? (spell seed) = [.item ⟨['w'], spell body⟩] := by decide +kernel

theorem pieces_grown (w : Bool) : pieces (block? w) (spell grown) = [.item (.loop (spell grown))] := by
  cases w <;> decide +kernel

theorem loops_grown : pieces loop? (spell grown) = [.item ⟨['w'], spell seed⟩] := by decide +kernel

theorem pieces_fragment (w : Bool) (f : Fragment) : pieces (block? w) f.text = f.text.map .char := by
  cases w <;> cases f <;> rfl

theorem loops_fragment (f : Fragment) : pieces loop? f.text = f.text.map .char := by
  cases f <;> rfl

theorem places_fragment (f : Fragment) : pieces placeholder? f.text = f.text.map .char := by
  cases f <;> rfl

/-! ## A pass over the body -/

/-- An element holds the name of its own fragment, and of no other. -/
theorem holds_element (s : Scope) (index : Nat) (f g : Fragment) :
    (s.enter index f.element).holds (thisPoint ++ spell g.key) = decide (f = g) := by
  cases f <;> cases g <;> rfl

variable {resolve : Scope → Text → Resolve Text}

/-- In the scope of an element the body becomes the fragment that the element asks for. -/
theorem onePass_body (s : Scope) (index : Nat) (f : Fragment) :
    onePass resolve (s.enter index f.element) (spell body) = pure f.text := by
  have hfirst : resolveConditionals true (s.enter index f.element).holds (spell body) = spell body :=
    Text.replace_of_chars pieces_body_true
  have hsecond : resolveConditionals false (s.enter index f.element).holds (spell body) = f.text := by
    rw [resolveConditionals, Text.replace, pieces_body_false, List.flatMap_map]
    simp only [Block.resolve, Conditional.branch, holds_element]
    cases f <;> rfl
  rw [onePass, hfirst, hsecond]
  exact Text.replaceM_of_chars (loops_fragment f)

theorem onePass_fragment (s : Scope) (f : Fragment) : onePass resolve s f.text = pure f.text := by
  have hturn : ∀ w, resolveConditionals w s.holds f.text = f.text := fun w =>
    Text.replace_of_chars (pieces_fragment w f)
  rw [onePass, hturn, hturn]
  exact Text.replaceM_of_chars (loops_fragment f)

/-- With two passes or more the body comes to rest at the fragment. -/
theorem runPasses_body (c depth : Nat) (s : Scope) (index : Nat) (f : Fragment) :
    runPasses (c + 2) (depth + 1) (s.enter index f.element) (spell body) = pure f.text := by
  have hne : f.text ≠ spell body := by cases f <;> decide
  rw [runPasses, settle, onePass_body, pure_bind, if_neg hne, settle, onePass_fragment, pure_bind, if_pos rfl]

theorem expandElements_body (c depth : Nat) (s : Scope) : ∀ (index : Nat) (fs : List Fragment),
    expandElements (runPasses (c + 2) (depth + 1)) s (spell body) index (fs.map element) = pure (spell fs)
  | _, [] => rfl
  | index, f :: fs => by
    have hfill : Text.replaceM placeholder? (fillPlaceholder (s.enter index f.element) ⟨index, f.element⟩) f.text
        = pure f.text := Text.replaceM_of_chars (places_fragment f)
    simp only [List.map_cons, expandElements, expandElement, runPasses_body, pure_bind, hfill,
      expandElements_body c depth s (index + 1) fs]
    rfl

/-! ## A pass over the seed -/

/-- The elements are those of the loop, whatever loops of the growing text stand around. -/
def Sees (s : Scope) : Prop := s.get? ['w'] = some (.list elements)

theorem Sees.enter {s : Scope} (h : Sees s) (index : Nat) (f : Fragment) : Sees (s.enter index f.element) := by
  have hpass : (s.enter index f.element).get? ['w'] = s.get? ['w'] := by cases f <;> rfl
  exact hpass.trans h

theorem Sees.items {s : Scope} (h : Sees s) : (s.lookup ['w']).elements? = some elements := by
  have hlookup : s.lookup ['w'] = (s.get? ['w']).getD .null := rfl
  rw [hlookup, h]
  rfl

/-- A pass over a text that is a single loop expands the loop. -/
theorem onePass_loop {s : Scope} (hs : Sees s) {t inside : Text} (ht : ∀ w, pieces (block? w) t = [.item (.loop t)])
    (hl : pieces loop? t = [.item ⟨['w'], inside⟩]) :
    onePass resolve s t = expandElements resolve s inside 0 elements := by
  have hturn : ∀ w, resolveConditionals w s.holds t = t := fun w => by
    rw [resolveConditionals, Text.replace, ht]
    simp [Block.resolve]
  rw [onePass, hturn, hturn, Text.replaceM, hl]
  simp [Text.writeM, expandLoop, hs.items]

/-- A pass over the seed puts it inside one more loop. -/
theorem onePass_seed (c depth : Nat) {s : Scope} (hs : Sees s) :
    onePass (runPasses (c + 2) (depth + 1)) s (spell seed) = pure (spell grown) := by
  rw [onePass_loop hs pieces_seed loops_seed]
  exact expandElements_body c depth s 0 grown

/-! ## No number of levels is enough -/

/-- The resolution runs out of levels. -/
def RunsOut (x : Resolve Text) : Prop := ∀ l, ∃ l', x.run l = .error .tooDeep l'

theorem RunsOut.bind {x : Resolve Text} (h : RunsOut x) (f : Text → Resolve Text) : RunsOut (x >>= f) := by
  intro l
  obtain ⟨l', hl'⟩ := h l
  exact ⟨l', Resolve.run_bind_error hl' f⟩

/-- A loop runs out of levels where its first element does. -/
theorem runsOut_elements {s : Scope} {t : Text} (h : RunsOut (resolve (s.enter 0 opening.element) t)) :
    RunsOut (expandElements resolve s t 0 elements) := by
  have hfirst : elements = opening.element :: elements.tail := rfl
  rw [hfirst, expandElements]
  exact RunsOut.bind (h.bind _) _

/-- **No number of levels is enough** for the seed, with two passes or more. -/
theorem runs_out (c : Nat) : ∀ (depth : Nat) {s : Scope}, Sees s →
    RunsOut (runPasses (c + 2) depth s (spell seed)) ∧ RunsOut (runPasses (c + 2) depth s (spell grown))
  | 0, _, _ => ⟨fun l => ⟨l, rfl⟩, fun l => ⟨l, rfl⟩⟩
  | depth + 1, s, hs => by
    have hinner := (runs_out c depth (hs.enter 0 opening)).1
    have hgrown : RunsOut (onePass (runPasses (c + 2) depth) s (spell grown)) := by
      rw [onePass_loop hs pieces_grown loops_grown]
      exact runsOut_elements hinner
    refine ⟨?_, hgrown.bind _⟩
    cases depth with
    | zero =>
      have hseed : RunsOut (onePass (runPasses (c + 2) 0) s (spell seed)) := by
        rw [onePass_loop hs pieces_seed loops_seed]
        exact runsOut_elements fun l => ⟨l, rfl⟩
      exact hseed.bind _
    | succ depth =>
      -- the first pass gives the grown text, the second one resolves the seed in it
      have hne : spell grown ≠ spell seed := by decide +kernel
      rw [runPasses, settle, onePass_seed c depth hs, pure_bind, if_neg hne, settle]
      exact hgrown.bind _

theorem not_terminates (c : Nat) : ¬Terminates (c + 2) (spell seed) requests := by
  rintro ⟨depth, h⟩
  obtain ⟨l', hl'⟩ := (runs_out c depth (s := .outer requests) rfl).1 .empty
  exact h l' hl'

end Regrowth

/-- **When every resolution terminates**: exactly with a budget of one pass. -/
theorem terminates_iff (budget : PassBudget) : (∀ t vars, Terminates budget.val t vars) ↔ budget.val = 1 := by
  obtain ⟨budget, hb⟩ := budget
  constructor
  · intro h
    by_cases hone : budget = 1
    · exact hone
    obtain ⟨c, rfl⟩ : ∃ c, budget = c + 2 := ⟨budget - 2, by omega⟩
    exact absurd (h _ _) (Regrowth.not_terminates c)
  · rintro rfl t vars
    exact terminates_one t vars

end Stencil
