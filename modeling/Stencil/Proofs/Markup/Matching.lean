import Stencil.Proofs.Markup.Shape

/-!
# Matching markers in written trees

* The scan for the closing marker of a kind goes through what is written for a tree without changing its depth
  (`scan_print`): the tags of the kind come in pairs, all else is no marker of it.
* Hence a loop and a conditional are read back with the bodies that they were written with (`loop?_written`,
  `conditional?_written_when`, `conditional?_written_choice`). They are stated for any body that the scan goes
  through (`Passes`).
* A match lies in the text that is scanned, and its alternative marker before its closing one (`scan_found`).
-/

namespace Stencil

open Text (Braced BraceFree)
open Markup

/-- The markers of a kind of tag. -/
abbrev TagKind.markers : TagKind → Markers
  | conditional => conditionalMarkers
  | loop => loopMarkers

/-! ## Tags hold two braces -/

namespace Markup

theorem braceFree_nameEnd {n : Text} (hn : IsName n) : BraceFree (n ++ [Point.char '}', '}']) := by
  intro x hx
  rcases List.mem_append.1 hx with hx | hx
  · exact hn.braceFree x hx
  · rintro rfl
    revert hx
    decide

/-- What follows the two braces of an opening tag. -/
def openTail (kind : TagKind) (n : Text) : Text := kind.word ++ Point.char ' ' :: (n ++ [Point.char '}', '}'])

theorem braceFree_openTail (kind : TagKind) {n : Text} (hn : IsName n) : BraceFree ('#' :: openTail kind n) := by
  intro x hx
  have hw : BraceFree (Point.char '#' :: kind.word ++ [Point.char ' ']) := by cases kind <;> decide
  have hx' : x ∈ (Point.char '#' :: kind.word ++ [Point.char ' ']) ++ (n ++ [Point.char '}', '}']) := by
    simpa [openTail] using hx
  rcases List.mem_append.1 hx' with hx | hx
  · exact hw x hx
  · exact braceFree_nameEnd hn x hx

/-- What follows the two braces of a closing marker. -/
def closeTail (kind : TagKind) : Text := kind.word ++ [Point.char '}', '}']

theorem closing_eq (kind : TagKind) : kind.markers.closing = Point.char '{' :: '{' :: '/' :: closeTail kind := by
  cases kind <;> rfl

theorem braceFree_closeTail (kind : TagKind) : BraceFree ('/' :: closeTail kind) := by
  cases kind <;> decide

theorem elseText_eq : elseText = Point.char '{' :: '{' :: 'e' :: ['l', 's', 'e', '}', '}'] := rfl

theorem braceFree_elseTail : BraceFree ('e' :: ['l', 's', 'e', '}', '}']) := by decide

end Markup

namespace Markers

/-- A scan goes through a text before another one at depth one, whatever it found before. -/
def Passes (m : Markers) (u s : Text) : Prop :=
  ∀ pos e, m.scan (u ++ s) ⟨pos, 0, 1, e⟩ = m.scan s ⟨pos + u.length, 0, 1, e⟩

variable {kind : TagKind} {pos d : Nat} {e : Option Nat}

/-! ## Single steps -/

theorem scan_cons {m : Markers} {c : Point} {s : Text} {p p' : Progress} (h : m.step (c :: s) p = .ok p') :
    m.scan (c :: s) p = m.scan s p' := by
  rw [scan, h]

/-- The rest of a marker is passed over. -/
theorem scan_skip (m : Markers) : ∀ (v s : Text) (pos : Nat),
    m.scan (v ++ s) ⟨pos, v.length, d, e⟩ = m.scan s ⟨pos + v.length, 0, d, e⟩
  | [], _, _ => rfl
  | c :: cs, s, pos => by
    have hstep : m.step (c :: (cs ++ s)) ⟨pos, (c :: cs).length, d, e⟩ = .ok ⟨pos + 1, cs.length, d, e⟩ := by
      simp [step]
    rw [List.cons_append, scan_cons hstep, scan_skip m cs s (pos + 1)]
    simp only [List.length_cons]
    congr 2
    omega

/-- A marker that is taken at its first place is passed over as a whole. -/
theorem scan_marker {m : Markers} {u s : Text} {d' : Nat} {e' : Option Nat} (hu : u ≠ [])
    (h : m.step (u ++ s) ⟨pos, 0, d, e⟩ = .ok ⟨pos + 1, u.length - 1, d', e'⟩) :
    m.scan (u ++ s) ⟨pos, 0, d, e⟩ = m.scan s ⟨pos + u.length, 0, d', e'⟩ := by
  obtain ⟨c, cs, rfl⟩ := List.exists_cons_of_ne_nil hu
  rw [List.cons_append] at h ⊢
  rw [scan_cons h]
  simp only [List.length_cons, Nat.add_sub_cancel]
  rw [scan_skip]
  congr 2
  omega

theorem step_of_head {c : Point} (hc : c ≠ '{') (s : Text) :
    kind.markers.step (c :: s) ⟨pos, 0, d, e⟩ = .ok ⟨pos + 1, 0, d, e⟩ := by
  have hc' : ¬ '{' = c := fun h => hc h.symm
  cases kind <;> simp [conditionalMarkers, loopMarkers, step, splitsHere, hc']

theorem step_of_second {c : Point} (hc : c ≠ '{') (s : Text) :
    kind.markers.step ('{' :: c :: s) ⟨pos, 0, d, e⟩ = .ok ⟨pos + 1, 0, d, e⟩ := by
  have hc' : ¬ '{' = c := fun h => hc h.symm
  cases kind <;> simp [conditionalMarkers, loopMarkers, step, splitsHere, hc']

/-! ## Where a match lies -/

/-- A step ends at the place of the scan, or goes on to the next place with no alternative marker after it. -/
theorem step_cases (m : Markers) (t : Text) (p : Progress) :
    (∃ q, m.step t p = .ok q ∧ q.pos = p.pos + 1 ∧ ∀ e ∈ q.elsePos, e ∈ p.elsePos ∨ e = p.pos) ∨
    m.step t p = .error ⟨p.pos, p.elsePos⟩ := by
  unfold step
  simp only
  split
  · exact .inl ⟨_, rfl, rfl, fun _ h => .inl h⟩
  · split
    · exact .inl ⟨_, rfl, rfl, fun _ h => .inl h⟩
    · split
      · split
        · exact .inr rfl
        · exact .inl ⟨_, rfl, rfl, fun _ h => .inl h⟩
      · split
        · exact .inl ⟨_, rfl, rfl, fun _ h => .inr (Option.some.inj h).symm⟩
        · exact .inl ⟨_, rfl, rfl, fun _ h => .inl h⟩

/-- A match lies in the text that is scanned, its alternative marker before its closing one. -/
theorem scan_found {m : Markers} {found : TagMatch} : ∀ {t : Text} {p : Progress}, (∀ e ∈ p.elsePos, e ≤ p.pos) →
    m.scan t p = .error found →
    p.pos ≤ found.closePos ∧ found.closePos < p.pos + t.length ∧ ∀ e ∈ found.elsePos, e ≤ found.closePos
  | [], _, _, h => by cases h
  | c :: cs, p, he, h => by
    rw [scan] at h
    rw [List.length_cons]
    rcases step_cases m (c :: cs) p with ⟨q, hq, hpos, helse⟩ | hstep
    · rw [hq] at h
      obtain ⟨hstart, hclose, hbefore⟩ := scan_found (t := cs) (p := q) (fun e hmem => by
        rcases helse e hmem with hmem | rfl
        · have := he e hmem
          omega
        · omega) h
      exact ⟨by omega, by omega, hbefore⟩
    · rw [hstep] at h
      cases h
      exact ⟨Nat.le_refl _, by simp only; omega, he⟩

/-- The alternative marker of a match is one that was found before, or not before the start of the scan. -/
theorem scan_elsePos {m : Markers} {found : TagMatch} {first : Nat} : ∀ {t : Text} {p : Progress},
    (∀ e ∈ p.elsePos, first ≤ e) → first ≤ p.pos → m.scan t p = .error found → ∀ e ∈ found.elsePos, first ≤ e
  | [], _, _, _, h => by cases h
  | c :: cs, p, he, hp, h => by
    rw [scan] at h
    rcases step_cases m (c :: cs) p with ⟨q, hq, hpos, helse⟩ | hstep
    · rw [hq] at h
      refine scan_elsePos (t := cs) (p := q) (fun e hmem => ?_) (by omega) h
      rcases helse e hmem with hmem | rfl
      · exact he e hmem
      · exact hp
    · rw [hstep] at h
      cases h
      exact he

theorem matchFrom_found {m : Markers} {found : TagMatch} {t : Text} (h : m.matchFrom t 0 = some found) :
    found.closePos < t.length ∧ ∀ e ∈ found.elsePos, e ≤ found.closePos := by
  unfold matchFrom found? at h
  split at h
  · cases h
  · rename_i heq
    cases h
    simpa [Progress.start] using scan_found (fun _ h => by cases h) heq

/-! ## Texts and refused tags -/

/-- A text without braces is passed over. -/
theorem scan_braceFree : ∀ (u s : Text) (pos : Nat), BraceFree u →
    kind.markers.scan (u ++ s) ⟨pos, 0, d, e⟩ = kind.markers.scan s ⟨pos + u.length, 0, d, e⟩
  | [], _, _, _ => rfl
  | c :: cs, s, pos, hu => by
    rw [List.cons_append, scan_cons (step_of_head (hu c (by simp)) _),
      scan_braceFree cs s (pos + 1) fun x hx => hu x (by simp [hx])]
    simp only [List.length_cons]
    congr 2
    omega

/-- Two braces that start no marker are passed over with the text after them. -/
theorem scan_tag {c : Point} {cs s : Text} (hu : BraceFree (c :: cs))
    (h : kind.markers.step ('{' :: '{' :: c :: (cs ++ s)) ⟨pos, 0, d, e⟩ = .ok ⟨pos + 1, 0, d, e⟩) :
    kind.markers.scan ('{' :: '{' :: c :: (cs ++ s)) ⟨pos, 0, d, e⟩
      = kind.markers.scan s ⟨pos + (Point.char '{' :: '{' :: c :: cs).length, 0, d, e⟩ := by
  rw [scan_cons h, scan_cons (step_of_second (hu c (by simp)) _), ← List.cons_append, scan_braceFree _ _ _ hu]
  simp only [List.length_cons]
  congr 2
  omega

/-- A name closed by braces is the alternative marker only where it is the name that reads so. -/
theorem eq_elseName_of_start {n s r : Text} (hn : IsName n) (h : elseText ++ r = placeText n ++ s) :
    n = elseName := by
  have hstop : ∀ {u v : Text}, Point.char '}' ∉ u → (u ++ Point.char '}' :: v).takeWhile (· ≠ Point.char '}') = u := by
    intro u v hu
    have hall : ∀ x ∈ u, decide (x ≠ '}') = true := fun x hx => by
      rw [decide_eq_true_eq]
      rintro rfl
      exact hu hx
    rw [List.takeWhile_append_of_pos hall]
    simp
  have hcut : elseName ++ Point.char '}' :: ('}' :: r) = n ++ Point.char '}' :: ('}' :: s) := by
    simpa [elseText, conditionalMarkers, elseName, placeText] using h
  have := congrArg (List.takeWhile (· ≠ Point.char '}')) hcut
  rw [hstop (by decide), hstop (hn.not_mem (by decide) (by decide))] at this
  exact this.symm

/-- A placeholder is passed over. -/
theorem scan_placeText {n : Text} (hn : IsName n) (he : n ≠ elseName) (s : Text) :
    kind.markers.scan (placeText n ++ s) ⟨pos, 0, d, e⟩
      = kind.markers.scan s ⟨pos + (placeText n).length, 0, d, e⟩ := by
  have helse : elseText.isPrefixOf (placeText n ++ s) = false := by
    rw [Bool.eq_false_iff]
    intro hp
    obtain ⟨r, hr⟩ := List.isPrefixOf_iff_prefix.1 hp
    exact he (eq_elseName_of_start hn hr)
  obtain ⟨c, cs, rfl, hc⟩ := hn.head
  have hnumber : ¬ '#' = c := by rintro rfl; revert hc; decide
  have hslash : ¬ '/' = c := by rintro rfl; revert hc; decide
  have hu : BraceFree (c :: (cs ++ [Point.char '}', '}'])) := braceFree_nameEnd hn
  have hstep : kind.markers.step ('{' :: '{' :: c :: ((cs ++ [Point.char '}', '}']) ++ s)) ⟨pos, 0, d, e⟩
      = .ok ⟨pos + 1, 0, d, e⟩ := by
    cases kind with
    | conditional =>
      have hsplit : conditionalMarkers.splitsHere d e ('{' :: '{' :: c :: ((cs ++ [Point.char '}', '}']) ++ s))
          = false := by
        simp only [splitsHere, conditionalMarkers]
        have : [Point.char '{', '{', 'e', 'l', 's', 'e', '}', '}'].isPrefixOf
            ('{' :: '{' :: c :: ((cs ++ [Point.char '}', '}']) ++ s)) = false := by
          simpa [placeText, elseText, conditionalMarkers] using helse
        rw [this, Bool.and_false]
      simp only [step, hsplit]
      simp [conditionalMarkers, hnumber, hslash]
    | loop => simp [loopMarkers, step, splitsHere, hnumber, hslash]
  have := scan_tag hu hstep
  simpa [placeText] using this

/-! ## Tags -/

/-- The depth inside a tag, for the scan of a kind. -/
def inside (kind kind' : TagKind) (d : Nat) : Nat := if kind = kind' then d + 1 else d

theorem le_inside (kind kind' : TagKind) (d : Nat) : d ≤ inside kind kind' d := by
  unfold inside
  split <;> omega

/-- An opening tag raises the depth of the scan of its kind. -/
theorem scan_openText (kind' : TagKind) {n : Text} (hn : IsName n) (s : Text) :
    kind.markers.scan (openText kind' n ++ s) ⟨pos, 0, d, e⟩
      = kind.markers.scan s ⟨pos + (openText kind' n).length, 0, inside kind kind' d, e⟩ := by
  by_cases hk : kind = kind'
  · subst hk
    have hstep : kind.markers.step (openHead kind ++ (n ++ [Point.char '}', '}'] ++ s)) ⟨pos, 0, d, e⟩
        = .ok ⟨pos + 1, (openHead kind).length - 1, d + 1, e⟩ := by
      cases kind <;> simp [conditionalMarkers, loopMarkers, openHead, TagKind.word, step]
    rw [openText_eq, List.append_assoc, List.append_assoc, ← List.append_assoc n,
      scan_marker (by simp [openHead]) hstep,
      scan_braceFree _ _ _ (braceFree_nameEnd hn)]
    simp only [inside, if_true, List.length_append]
    congr 2
    omega
  · have hstep : kind.markers.step ('{' :: '{' :: '#' :: (openTail kind' n ++ s)) ⟨pos, 0, d, e⟩
        = .ok ⟨pos + 1, 0, d, e⟩ := by
      cases kind <;> cases kind' <;> first
        | exact absurd rfl hk
        | simp [conditionalMarkers, loopMarkers, openTail, TagKind.word, step, splitsHere]
    have := scan_tag (braceFree_openTail kind' hn) hstep
    simpa [openText, openTail, inside, hk] using this

/-- A closing marker lowers the depth of the scan of its kind again. -/
theorem scan_closing (kind' : TagKind) (hd : 1 ≤ d) (s : Text) :
    kind.markers.scan (kind'.markers.closing ++ s) ⟨pos, 0, inside kind kind' d, e⟩
      = kind.markers.scan s ⟨pos + kind'.markers.closing.length, 0, d, e⟩ := by
  by_cases hk : kind = kind'
  · subst hk
    have hstep : kind.markers.step (kind.markers.closing ++ s) ⟨pos, 0, d + 1, e⟩
        = .ok ⟨pos + 1, kind.markers.closing.length - 1, d, e⟩ := by
      have : ¬ d + 1 ≤ 1 := by omega
      cases kind <;> simp [conditionalMarkers, loopMarkers, step, this]
    simp only [inside, if_true]
    exact scan_marker (by cases kind <;> simp [conditionalMarkers, loopMarkers]) hstep
  · have hstep : kind.markers.step (kind'.markers.closing ++ s) ⟨pos, 0, d, e⟩ = .ok ⟨pos + 1, 0, d, e⟩ := by
      cases kind <;> cases kind' <;> first
        | exact absurd rfl hk
        | simp [conditionalMarkers, loopMarkers, step, splitsHere]
    simp only [inside, if_neg hk]
    rw [closing_eq] at hstep ⊢
    exact scan_tag (braceFree_closeTail kind') hstep

/-- The marker between two branches is passed over outside the tag that the scan is for, and after the first one that
belongs to the tag. -/
theorem scan_elseText (h : kind = .conditional → d ≠ 1 ∨ e.isSome) (s : Text) :
    kind.markers.scan (elseText ++ s) ⟨pos, 0, d, e⟩ = kind.markers.scan s ⟨pos + elseText.length, 0, d, e⟩ := by
  have hstep : kind.markers.step ('{' :: '{' :: 'e' :: ([Point.char 'l', 's', 'e', '}', '}'] ++ s)) ⟨pos, 0, d, e⟩
      = .ok ⟨pos + 1, 0, d, e⟩ := by
    cases kind with
    | conditional =>
      have hsplit : conditionalMarkers.splitsHere d e ('{' :: '{' :: 'e' :: ([Point.char 'l', 's', 'e', '}', '}'] ++ s))
          = false := by
        rcases h rfl with hd | he
        · simp [splitsHere, conditionalMarkers, hd]
        · cases e with
          | some first => simp [splitsHere, conditionalMarkers]
          | none => cases he
      simp only [step, hsplit]
      simp [conditionalMarkers]
    | loop => simp [loopMarkers, step, splitsHere]
  exact scan_tag braceFree_elseTail hstep

/-! ## Trees -/

/-- The scan of a kind goes through a tree. The induction keeps the depth at one or more, so that the marker between the
branches of an inner conditional is never taken for one of the tag that the scan is for. -/
theorem scan_print : ∀ (m : Markup) (s : Text) (pos d : Nat), m.Formed BraceFree → 1 ≤ d →
    kind.markers.scan (m.print ++ s) ⟨pos, 0, d, e⟩ = kind.markers.scan s ⟨pos + m.print.length, 0, d, e⟩
  | .done, _, _, _, _, _ => rfl
  | .text t rest, s, pos, d, ⟨ht, hr⟩, hd => by
    rw [print, List.append_assoc, scan_braceFree _ _ _ ht, scan_print rest _ _ _ hr hd, List.length_append,
      Nat.add_assoc]
  | .place n rest, s, pos, d, ⟨hn, he, hr⟩, hd => by
    rw [print, List.append_assoc, scan_placeText hn he, scan_print rest _ _ _ hr hd, List.length_append, Nat.add_assoc]
  | .when n yes rest, s, pos, d, ⟨hn, hy, hr⟩, hd => by
    have hin := Nat.le_trans hd (le_inside kind .conditional d)
    simp only [print, List.append_assoc]
    rw [scan_openText _ hn, scan_print yes _ _ _ hy hin, scan_closing .conditional hd, scan_print rest _ _ _ hr hd]
    simp only [List.length_append, TagKind.markers]
    congr 2
    omega
  | .choice n yes no rest, s, pos, d, ⟨hn, hy, hno, hr⟩, hd => by
    have hin := Nat.le_trans hd (le_inside kind .conditional d)
    have hsplit : kind = .conditional → inside kind .conditional d ≠ 1 ∨ e.isSome := by
      rintro rfl
      simp only [inside, if_true]
      omega
    simp only [print, List.append_assoc]
    rw [scan_openText _ hn, scan_print yes _ _ _ hy hin, scan_elseText hsplit, scan_print no _ _ _ hno hin,
      scan_closing .conditional hd, scan_print rest _ _ _ hr hd]
    simp only [List.length_append, TagKind.markers]
    congr 2
    omega
  | .each n body rest, s, pos, d, ⟨hn, hb, hr⟩, hd => by
    have hin := Nat.le_trans hd (le_inside kind .loop d)
    simp only [print, List.append_assoc]
    rw [scan_openText _ hn, scan_print body _ _ _ hb hin, scan_closing .loop hd, scan_print rest _ _ _ hr hd]
    simp only [List.length_append, TagKind.markers]
    congr 2
    omega

theorem passes_print (kind : TagKind) {m : Markup} (hm : m.Formed BraceFree) (s : Text) :
    kind.markers.Passes m.print s :=
  fun _ _ => scan_print m s _ 1 hm (Nat.le_refl 1)

/-! ## Closed tags -/

/-- The scan from an opening tag starts its body at depth one. -/
theorem matchFrom_openText (kind : TagKind) {n : Text} (hn : IsName n) (s : Text) :
    kind.markers.matchFrom (openText kind n ++ s) 0
      = found? (kind.markers.scan s ⟨(openText kind n).length, 0, 1, none⟩) := by
  rw [matchFrom, List.drop_zero, Progress.start, scan_openText kind hn]
  simp [inside]

/-- The closing marker at depth one ends the scan. -/
theorem scan_closing_one (kind : TagKind) (s : Text) :
    kind.markers.scan (kind.markers.closing ++ s) ⟨pos, 0, 1, e⟩ = .error ⟨pos, e⟩ := by
  cases kind <;> simp [conditionalMarkers, loopMarkers, scan, step]

/-- The first marker between two branches at depth one is taken. -/
theorem scan_elseText_one (s : Text) :
    conditionalMarkers.scan (elseText ++ s) ⟨pos, 0, 1, none⟩
      = conditionalMarkers.scan s ⟨pos + elseText.length, 0, 1, some pos⟩ := by
  refine scan_marker (by simp [elseText, conditionalMarkers]) ?_
  simp [elseText, conditionalMarkers, step, splitsHere, alternativeLength]

end Markers

open Markers

/-- The slice of a text between what stands before it and what stands after it. -/
theorem Text.slice_append (a b c : Text) : Text.slice (a ++ (b ++ c)) a.length (a.length + b.length) = b := by
  simp [Text.slice, List.take_append]

/-- A loop is read back with its body. -/
theorem loop?_written {n b s : Text} (hn : IsName n) (hb : loopMarkers.Passes b (loopMarkers.closing ++ s)) :
    loop? (openText .loop n ++ (b ++ (loopMarkers.closing ++ s)))
      = some (⟨n, b⟩, (openText .loop n ++ (b ++ loopMarkers.closing)).length) := by
  have hmatch : loopMarkers.matchFrom (openText .loop n ++ (b ++ (loopMarkers.closing ++ s))) 0
      = some ⟨(openText .loop n).length + b.length, none⟩ := by
    rw [matchFrom_openText .loop hn, hb, scan_closing_one .loop]
    rfl
  simp only [loop?, openTagOf?_openText .loop hn, hmatch, Option.bind_eq_bind, Option.bind_some, Option.pure_def,
    Text.slice_append]
  simp [Nat.add_assoc]

/-- A conditional with one branch is read back. -/
theorem conditional?_written_when {n yes s : Text} (hn : IsName n)
    (hy : conditionalMarkers.Passes yes (conditionalMarkers.closing ++ s)) :
    conditional? (openText .conditional n ++ (yes ++ (conditionalMarkers.closing ++ s)))
      = some (⟨n, yes, none⟩, (openText .conditional n ++ (yes ++ conditionalMarkers.closing)).length) := by
  have hmatch : conditionalMarkers.matchFrom (openText .conditional n ++ (yes ++ (conditionalMarkers.closing ++ s))) 0
      = some ⟨(openText .conditional n).length + yes.length, none⟩ := by
    rw [matchFrom_openText .conditional hn, hy, scan_closing_one .conditional]
    rfl
  simp only [conditional?, openTagOf?_openText .conditional hn, hmatch, Option.bind_eq_bind, Option.bind_some,
    Option.pure_def, Text.slice_append]
  simp [Nat.add_assoc]

/-- A conditional with two branches is read back. The scan has found the marker between them when it goes through the
second one. -/
theorem conditional?_written_choice {n yes no s : Text} (hn : IsName n)
    (hy : conditionalMarkers.Passes yes (elseText ++ (no ++ (conditionalMarkers.closing ++ s))))
    (hno : ∀ pos first, conditionalMarkers.scan (no ++ (conditionalMarkers.closing ++ s)) ⟨pos, 0, 1, some first⟩
      = conditionalMarkers.scan (conditionalMarkers.closing ++ s) ⟨pos + no.length, 0, 1, some first⟩) :
    conditional? (openText .conditional n ++ (yes ++ (elseText ++ (no ++ (conditionalMarkers.closing ++ s)))))
      = some (⟨n, yes, some no⟩,
        (openText .conditional n ++ (yes ++ (elseText ++ (no ++ conditionalMarkers.closing)))).length) := by
  have hmatch : conditionalMarkers.matchFrom
      (openText .conditional n ++ (yes ++ (elseText ++ (no ++ (conditionalMarkers.closing ++ s))))) 0
      = some ⟨(openText .conditional n).length + yes.length + elseText.length + no.length,
        some ((openText .conditional n).length + yes.length)⟩ := by
    rw [matchFrom_openText .conditional hn, hy, scan_elseText_one, hno, scan_closing_one .conditional]
    rfl
  have hslice : Text.slice (openText .conditional n ++ (yes ++ (elseText ++ (no ++ (conditionalMarkers.closing ++ s)))))
      ((openText .conditional n).length + yes.length + conditionalMarkers.alternativeLength)
      ((openText .conditional n).length + yes.length + elseText.length + no.length) = no := by
    have := Text.slice_append (openText .conditional n ++ (yes ++ elseText)) no (conditionalMarkers.closing ++ s)
    have hlength : conditionalMarkers.alternativeLength = elseText.length := rfl
    simpa [List.append_assoc, Nat.add_assoc, hlength] using this
  simp only [conditional?, openTagOf?_openText .conditional hn, hmatch, Option.bind_eq_bind, Option.bind_some,
    Option.pure_def, Text.slice_append, hslice]
  simp [Nat.add_assoc]

end Stencil
