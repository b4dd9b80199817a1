import Stencil.Text.Scan

/-!
# Pieces of texts that stand side by side

* A text at whose places no item starts is cut into its characters, whatever follows it (`pieces_chars_append`), and
  an item that is read whatever follows it is the first piece (`pieces_item_append`).
* **Braced recognisers** (`Braced`) read nothing but what starts with two opening braces. For them a text without
  braces (`pieces_braceFree_append`) and a refused tag (`pieces_tag_append`) are characters.
* Writing pieces with an effect goes through appending (`writeM_append`).
-/

namespace Stencil.Text

variable {α : Type} {read : Recogniser α}

/-! ## Markers -/

/-- A marker at the head of a text is found there. -/
@[simp] theorem after?_append (marker t : Text) : after? marker (marker ++ t) = some t := by
  have h : marker.isPrefixOf (marker ++ t) = true := List.isPrefixOf_iff_prefix.2 (List.prefix_append _ _)
  simp [after?, h]

theorem after?_eq_some {marker t rest : Text} (h : after? marker t = some rest) : t = marker ++ rest := by
  unfold after? at h
  split at h
  · rename_i hstart
    obtain ⟨u, rfl⟩ := List.isPrefixOf_iff_prefix.1 hstart
    rw [← Option.some.inj h, List.drop_left]
  · cases h

/-! ## Cutting -/

/-- Induction along the pieces of a text. -/
theorem pieces_induction (read : Recogniser α) {motive : Text → Prop} (nil : motive [])
    (char : ∀ c cs, read (c :: cs) = none → motive cs → motive (c :: cs))
    (item : ∀ c cs a width, read (c :: cs) = some (a, width) → motive (cs.drop (width - 1)) → motive (c :: cs)) :
    ∀ t, motive t := by
  intro t
  induction hn : t.length using Nat.strongRecOn generalizing t with
  | ind n ih =>
    subst hn
    cases t with
    | nil => exact nil
    | cons c cs =>
      cases hread : read (c :: cs) with
      | none => exact char c cs hread (ih cs.length (by simp) cs rfl)
      | some found =>
        obtain ⟨a, width⟩ := found
        have hlt : (cs.drop (width - 1)).length < (c :: cs).length := by
          rw [List.length_drop, List.length_cons]
          omega
        exact item c cs a width hread (ih _ hlt _ rfl)

/-- A text at whose places no item starts is cut into its characters. -/
theorem pieces_chars_append : ∀ (u s : Text), (∀ a b, u = a ++ b → b ≠ [] → read (b ++ s) = none) →
    pieces read (u ++ s) = u.map .char ++ pieces read s
  | [], _, _ => rfl
  | c :: cs, s, h => by
    have hhead : read (c :: (cs ++ s)) = none := h [] (c :: cs) rfl (by simp)
    have htail := pieces_chars_append cs s fun a b hab hb => h (c :: a) b (by rw [hab]; rfl) hb
    rw [List.cons_append, pieces_of_none hhead, htail]
    rfl

/-- An item that is read at the head is the first piece. -/
theorem pieces_item_append {u s : Text} {a : α} (hu : u ≠ []) (h : read (u ++ s) = some (a, u.length)) :
    pieces read (u ++ s) = .item a :: pieces read s := by
  obtain ⟨c, cs, rfl⟩ := List.exists_cons_of_ne_nil hu
  rw [List.cons_append] at h ⊢
  rw [pieces_of_some h]
  simp

/-! ## Braced recognisers -/

/-- Nothing is read but what starts with two opening braces. -/
def Braced (read : Recogniser α) : Prop := ∀ t, (∀ cs, t ≠ Point.char '{' :: '{' :: cs) → read t = none

/-- A text without opening braces. -/
def BraceFree (t : Text) : Prop := ∀ c ∈ t, c ≠ '{'

instance : DecidablePred BraceFree := fun t => List.decidableBAll _ t

theorem Braced.none_of_head (hr : Braced read) {c : Point} (hc : c ≠ '{') (cs : Text) : read (c :: cs) = none :=
  hr _ fun _ h => hc (List.cons.inj h).1

theorem Braced.none_of_second (hr : Braced read) {c : Point} (hc : c ≠ '{') (cs : Text) :
    read ('{' :: c :: cs) = none :=
  hr _ fun _ h => hc (List.cons.inj (List.cons.inj h).2).1

/-- A text without braces is cut into its characters. -/
theorem pieces_braceFree_append (hr : Braced read) {u : Text} (hu : BraceFree u) (s : Text) :
    pieces read (u ++ s) = u.map .char ++ pieces read s := by
  refine pieces_chars_append u s fun a b hab hb => ?_
  obtain ⟨c, cs, rfl⟩ := List.exists_cons_of_ne_nil hb
  exact hr.none_of_head (hu c (by simp [hab])) _

/-- Two braces with a text after them that is not read as an item are cut into characters. -/
theorem pieces_tag_append (hr : Braced read) {c : Point} {cs s : Text} (hu : BraceFree (c :: cs))
    (h : read ('{' :: '{' :: c :: (cs ++ s)) = none) :
    pieces read ('{' :: '{' :: c :: (cs ++ s)) = (Point.char '{' :: '{' :: c :: cs).map .char ++ pieces read s := by
  have hsecond : read ('{' :: c :: (cs ++ s)) = none := hr.none_of_second (hu c (by simp)) _
  rw [pieces_of_none h, pieces_of_none hsecond, ← List.cons_append, pieces_braceFree_append hr hu]
  rfl

/-! ## Writing -/

variable {m : Type → Type} [Monad m] [LawfulMonad m] {write : α → m Text}

/-- Pieces that stand side by side are written one after the other. -/
theorem writeM_append : ∀ ps qs : List (Piece α),
    writeM write (ps ++ qs) = do return (← writeM write ps) ++ (← writeM write qs)
  | [], qs => by simp [writeM]
  | .char c :: ps, qs => by simp [writeM, writeM_append ps qs]
  | .item a :: ps, qs => by simp [writeM, writeM_append ps qs, ← List.append_assoc]

/-- Characters are written as they are. -/
@[simp] theorem writeM_chars : ∀ u : Text, writeM write (u.map .char) = pure u
  | [] => rfl
  | c :: cs => by simp [writeM, writeM_chars cs]

/-- A text without items stays as it is. -/
theorem replace_of_chars {write : α → Text} {t : Text} (h : pieces read t = t.map .char) :
    replace read write t = t := by
  rw [replace, h, List.flatMap_map]
  exact List.flatMap_singleton' t

theorem replaceM_of_chars {t : Text} (h : pieces read t = t.map .char) : replaceM read write t = pure t := by
  rw [replaceM, h, writeM_chars]

end Stencil.Text
