import Mathlib.Order.Bounds.Basic
import Stencil.Proofs.Markup.Matching

/-!
# The matching closing marker is the first balanced one

* **Occurrences** of a marker (`Text.occurrences`) are counted position by position, and may overlap.
* **Balance** (`Markers.ClosesAt`, `Markers.SplitsAt`): where a closing marker balances the opening markers from a start
  on, and where an alternative marker stands at depth one. Both count every occurrence of a marker in the raw text.
* **Occurrences of tags do not overlap** (`length_le_of_occursAt_lt`): nothing that a scan passes over within a marker
  is a marker. Hence the depth of a scan is the difference of two counts (`Markers.Reached`), which each step keeps
  (`Reached.step`), and so does a whole scan (`Reached.scan`).
* **Matching finds the balanced closing marker** (`matchFrom_eq_some_iff`, `matchFrom_eq_none_iff`): the least one there
  is, with the least alternative marker at depth one before it, and nothing exactly where there is none.
-/

namespace Stencil

/-! ## Occurrences -/

namespace Text

/-- Whether a marker stands at a position. -/
def occursAt (marker t : Text) (position : Nat) : Bool := marker.isPrefixOf (t.drop position)

/-- The number of positions from one on and before another where a marker stands. -/
def occurrences (marker t : Text) (first last : Nat) : Nat :=
  ((List.range last).filter fun position => decide (first ≤ position) && occursAt marker t position).length

/-- An occurrence ends inside the text. -/
theorem length_le_of_occursAt {marker t : Text} {position : Nat} (h : occursAt marker t position = true) :
    marker.length ≤ t.length - position := by
  have := (List.isPrefixOf_iff_prefix.1 h).length_le
  simpa using this

end Text

open Text (BraceFree occursAt occurrences)

/-! ## Occurrences of tags -/

/-- Two opening braces and a text without them. -/
def IsTag (u : Text) : Prop := ∃ c cs, u = Point.char '{' :: '{' :: c :: cs ∧ BraceFree (c :: cs)

namespace Text

variable {u v t t' : Text} {i j first last : Nat}

/-- A marker stands where its characters do. -/
theorem occursAt_iff : occursAt u t i = true ↔ ∀ k (h : k < u.length), t[i + k]? = some u[k] := by
  rw [occursAt, List.isPrefixOf_iff_prefix, List.prefix_iff_getElem?]
  simp only [List.getElem?_drop]

/-- An occurrence more or less, with each position. -/
theorem occurrences_succ (h : first ≤ last) :
    occurrences u t first (last + 1) = occurrences u t first last + (occursAt u t last).toNat := by
  simp only [occurrences, List.range_succ, List.filter_append, List.length_append, List.filter_cons, List.filter_nil]
  cases hu : occursAt u t last <;> simp [h]

@[simp] theorem occurrences_self : occurrences u t first first = 0 := by
  simp only [occurrences, List.length_eq_zero_iff, List.filter_eq_nil_iff, List.mem_range, Bool.and_eq_true,
    decide_eq_true_eq]
  omega

/-- Texts in which a marker stands at the same positions have as many occurrences of it. -/
theorem occurrences_congr (hle : first ≤ last)
    (h : ∀ i, first ≤ i → i < last → occursAt u t' i = occursAt u t i) :
    occurrences u t' first last = occurrences u t first last := by
  induction last, hle using Nat.le_induction with
  | base => rw [occurrences_self, occurrences_self]
  | succ last hle ih =>
    rw [occurrences_succ hle, occurrences_succ hle, ih fun i hi hlt => h i hi (by omega), h last hle (by omega)]

/-- **Tags do not overlap**: of two occurrences at different positions one ends before the other starts. -/
theorem length_le_of_occursAt_lt (hu : IsTag u) (hv : IsTag v) (hi : occursAt u t i = true)
    (hj : occursAt v t j = true) (hij : i < j) : i + u.length ≤ j := by
  by_contra hover
  obtain ⟨c, cs, rfl, hfree⟩ := hu
  obtain ⟨d, ds, rfl, -⟩ := hv
  rw [occursAt_iff] at hi hj
  have hfirst : t[j]? = some (Point.char '{') := hj 0 (by simp)
  have hsecond : t[j + 1]? = some (Point.char '{') := hj 1 (by simp)
  -- the first brace of the later tag would be the second one of the earlier, or a character after both
  obtain rfl | ⟨k, rfl⟩ : j = i + 1 ∨ ∃ k, j = i + (k + 2) := by
    by_cases h : j = i + 1
    · exact .inl h
    · exact .inr ⟨j - i - 2, by omega⟩
  · have hthird : t[i + 2]? = some c := hi 2 (by simp)
    rw [Nat.add_assoc, hthird] at hsecond
    exact hfree c (by simp) (Option.some.inj hsecond)
  · have hk : k < (c :: cs).length := by
      simp only [List.length_cons] at hover ⊢
      omega
    have hlater : t[i + (k + 2)]? = some (c :: cs)[k] := hi (k + 2) (by simpa using hk)
    rw [hlater] at hfirst
    exact hfree _ (List.getElem_mem hk) (Option.some.inj hfirst)

end Text

/-! ## The markers of a kind -/

namespace Markers

/-- The markers of a kind of tag. -/
def all (m : Markers) : List Text := m.opening :: m.closing :: m.alternative.toList

variable {kind kind' : TagKind} {m : Markers} {u v t t' : Text} {i : Nat}

theorem opening_mem_all (m : Markers) : m.opening ∈ m.all := List.mem_cons_self

theorem closing_mem_all (m : Markers) : m.closing ∈ m.all := List.mem_cons_of_mem _ List.mem_cons_self

theorem alternative_mem_all {marker : Text} (h : marker ∈ m.alternative) : marker ∈ m.all := by
  simpa [all] using .inr (.inr h)

theorem alternativeLength_of_mem {marker : Text} (h : marker ∈ m.alternative) :
    m.alternativeLength = marker.length := by
  rw [alternativeLength, Option.mem_def.1 h, Option.getD_some]

theorem isTag_of_mem_all (h : u ∈ kind.markers.all) : IsTag u := by
  suffices hall : ∀ u ∈ kind.markers.all, IsTag u from hall u h
  cases kind <;> simp only [all, conditionalMarkers, loopMarkers, Option.toList, List.forall_mem_cons]
  · exact ⟨⟨_, _, rfl, by decide⟩, ⟨_, _, rfl, by decide⟩, ⟨_, _, rfl, by decide⟩, List.forall_mem_nil _⟩
  · exact ⟨⟨_, _, rfl, by decide⟩, ⟨_, _, rfl, by decide⟩, List.forall_mem_nil _⟩

theorem opening_ne_closing (kind : TagKind) : kind.markers.opening ≠ kind.markers.closing := by cases kind <;> decide

theorem ne_alternative {marker : Text} (h : marker ∈ kind.markers.alternative) :
    kind.markers.opening ≠ marker ∧ kind.markers.closing ≠ marker := by
  cases kind <;> cases h
  decide

/-- The character after the braces of a marker tells it from the others of its kind. -/
theorem eq_of_third (hu : u ∈ kind.markers.all) (hv : v ∈ kind.markers.all) (h : u[2]? = v[2]?) : u = v := by
  have hall : ∀ u ∈ kind.markers.all, ∀ v ∈ kind.markers.all, u[2]? = v[2]? → u = v := by cases kind <;> decide
  exact hall u hu v hv h

/-- Two characters after the braces tell markers of different kinds apart. -/
theorem third_or_fourth_ne (hkind : kind' ≠ kind) (hu : u ∈ kind'.markers.all) (hv : v ∈ kind.markers.all) :
    u[2]? ≠ v[2]? ∨ u[3]? ≠ v[3]? := by
  have hall : ∀ u ∈ kind'.markers.all, ∀ v ∈ kind.markers.all, u[2]? ≠ v[2]? ∨ u[3]? ≠ v[3]? := by
    cases kind <;> cases kind' <;> first
      | exact absurd rfl hkind
      | decide
  exact hall u hu v hv

/-- Markers have more than three characters. -/
theorem three_lt_length (h : u ∈ kind.markers.all) : 3 < u.length := by
  have hall : ∀ u ∈ kind.markers.all, 3 < u.length := by cases kind <;> decide
  exact hall u h

theorem getElem?_of_occursAt (h : occursAt u t i = true) {k : Nat} (hk : k < u.length) : t[i + k]? = u[k]? := by
  rw [Text.occursAt_iff.1 h k hk, List.getElem?_eq_getElem hk]

/-- At most one marker of a kind stands at a position. -/
theorem eq_of_occursAt (hu : u ∈ kind.markers.all) (hv : v ∈ kind.markers.all) (h : occursAt u t i = true)
    (h' : occursAt v t i = true) : u = v := by
  have hlu := three_lt_length hu
  have hlv := three_lt_length hv
  refine eq_of_third hu hv ?_
  rw [← getElem?_of_occursAt h (by omega), getElem?_of_occursAt h' (by omega)]

/-- Where a marker stands no other one of its kind does. -/
theorem occursAt_eq_false (hu : u ∈ kind.markers.all) (hv : v ∈ kind.markers.all) (hne : u ≠ v)
    (h : occursAt u t i = true) : occursAt v t i = false := by
  rw [Bool.eq_false_iff]
  exact fun h' => hne (eq_of_occursAt hu hv h h')

/-- Where a marker stands none of another kind does. -/
theorem occursAt_eq_false_of_ne (hkind : kind' ≠ kind) (hu : u ∈ kind'.markers.all) (hv : v ∈ kind.markers.all)
    (h : occursAt u t i = true) : occursAt v t i = false := by
  rw [Bool.eq_false_iff]
  intro h'
  have hlu := three_lt_length hu
  have hlv := three_lt_length hv
  have hsame : ∀ k, k < 4 → u[k]? = v[k]? := fun k hk => by
    rw [← getElem?_of_occursAt h (by omega), getElem?_of_occursAt h' (by omega)]
  rcases third_or_fourth_ne hkind hu hv with hne | hne
  · exact hne (hsame 2 (by omega))
  · exact hne (hsame 3 (by omega))

/-! ## Balance -/

/-- At the position a closing marker stands that balances the opening markers: from the start on there are as many
opening markers before it as there are closing markers up to it. -/
structure ClosesAt (m : Markers) (t : Text) (start p : Nat) : Prop where
  start_le : start ≤ p
  closing : occursAt m.closing t p = true
  balance : occurrences m.opening t start p = occurrences m.closing t start (p + 1)

/-- At the position, after the start and before a limit, an alternative marker stands at depth one: from the start on
there is one opening marker more before it than there are closing markers. -/
structure SplitsAt (m : Markers) (t : Text) (start limit e : Nat) : Prop where
  start_lt : start < e
  lt_limit : e < limit
  alternative : ∃ marker ∈ m.alternative, occursAt marker t e = true
  balance : occurrences m.opening t start e = occurrences m.closing t start e + 1

/-- The first alternative marker at depth one before a limit, or that there is none. -/
def FirstSplit (m : Markers) (t : Text) (start limit : Nat) : Option Nat → Prop
  | some e => IsLeast {e | m.SplitsAt t start limit e} e
  | none => ∀ e, ¬m.SplitsAt t start limit e

/-- A match at the first closing marker that balances the opening markers, with the first alternative marker at depth
one before it. -/
structure Balanced (m : Markers) (t : Text) (start : Nat) (found : TagMatch) : Prop where
  closes : IsLeast {p | m.ClosesAt t start p} found.closePos
  split : m.FirstSplit t start found.closePos found.elsePos

theorem FirstSplit.unique {m : Markers} {start limit : Nat} : ∀ {o o' : Option Nat}, m.FirstSplit t start limit o →
    m.FirstSplit t start limit o' → o = o'
  | none, none, _, _ => rfl
  | some _, some _, h, h' => congrArg some (IsLeast.unique h h')
  | none, some e, h, h' => absurd h'.1 (h e)
  | some e, none, h, h' => absurd h.1 (h' e)

theorem Balanced.unique {m : Markers} {start : Nat} {found found' : TagMatch} (h : m.Balanced t start found)
    (h' : m.Balanced t start found') : found = found' := by
  obtain ⟨p, e⟩ := found
  obtain ⟨p', e'⟩ := found'
  obtain rfl : p = p' := h.closes.unique h'.closes
  obtain rfl : e = e' := h.split.unique h'.split
  rfl

/-! ## What a scan has found so far -/

/-- A scan from a start on that has come to a position: its depth is the number of opening markers less the number of
closing ones, no closing marker that balances them was passed, and no marker starts where characters are skipped. -/
structure Reached (m : Markers) (t : Text) (start : Nat) (p : Progress) : Prop where
  start_lt : start < p.pos
  inside : 0 < p.depth
  level : occurrences m.opening t start p.pos = occurrences m.closing t start p.pos + p.depth
  unclosed : ∀ q, q < p.pos → ¬m.ClosesAt t start q
  split : m.FirstSplit t start p.pos p.elsePos
  clear : ∀ u, u ∈ m.all → ∀ q, p.pos ≤ q → q < p.pos + p.skip → occursAt u t q = false

section Steps

variable {start : Nat} {p : Progress}

/-- The alternative markers before the next position. -/
theorem splitsAt_succ_iff {m : Markers} {pos e : Nat} : m.SplitsAt t start (pos + 1) e ↔
    m.SplitsAt t start pos e ∨ (e = pos ∧ m.SplitsAt t start (pos + 1) pos) := by
  constructor
  · intro h
    rcases Nat.lt_or_eq_of_le (Nat.le_of_lt_succ h.lt_limit) with hlt | rfl
    · exact .inl ⟨h.start_lt, hlt, h.alternative, h.balance⟩
    · exact .inr ⟨rfl, h⟩
  · rintro (h | ⟨rfl, h⟩)
    · exact ⟨h.start_lt, Nat.lt_succ_of_lt h.lt_limit, h.alternative, h.balance⟩
    · exact h

/-- A position at which no alternative marker counts leaves the first one as it is. -/
theorem FirstSplit.succ {m : Markers} {pos : Nat} : ∀ {o : Option Nat}, m.FirstSplit t start pos o →
    (o = none → ¬m.SplitsAt t start (pos + 1) pos) → m.FirstSplit t start (pos + 1) o
  | none, h, hnot => fun e he => (splitsAt_succ_iff.1 he).elim (h e) fun hat => hnot rfl hat.2
  | some e, h, _ => by
    refine ⟨splitsAt_succ_iff.2 (.inl h.1), fun e' he' => ?_⟩
    rcases splitsAt_succ_iff.1 he' with hbefore | ⟨rfl, -⟩
    · exact h.2 hbefore
    · exact Nat.le_of_lt h.1.lt_limit

/-- After a marker none starts before its end. -/
theorem clear_of_occursAt (hu : u ∈ kind.markers.all) (h : occursAt u t i = true) (hv : v ∈ kind.markers.all)
    {q : Nat} (hq : i + 1 ≤ q) (hlt : q < i + 1 + (u.length - 1)) : occursAt v t q = false := by
  rw [Bool.eq_false_iff]
  intro hocc
  have := Text.length_le_of_occursAt_lt (isTag_of_mem_all hu) (isTag_of_mem_all hv) h hocc (by omega)
  omega

/-- Where an opening or a closing marker stands no alternative marker does. -/
theorem not_splitsAt_of_occursAt {limit : Nat} (hu : u = kind.markers.opening ∨ u = kind.markers.closing)
    (h : occursAt u t i = true) : ¬kind.markers.SplitsAt t start limit i := by
  intro hsplits
  obtain ⟨marker, hmarker, hocc⟩ := hsplits.alternative
  have hm := alternative_mem_all hmarker
  rcases hu with rfl | rfl
  · exact (ne_alternative hmarker).1 (eq_of_occursAt (opening_mem_all _) hm h hocc)
  · exact (ne_alternative hmarker).2 (eq_of_occursAt (closing_mem_all _) hm h hocc)

/-- A position without opening and closing markers is passed. -/
theorem Reached.pass {skip : Nat} {o : Option Nat} (h : kind.markers.Reached t start p)
    (hopen : occursAt kind.markers.opening t p.pos = false) (hclose : occursAt kind.markers.closing t p.pos = false)
    (hsplit : kind.markers.FirstSplit t start (p.pos + 1) o)
    (hclear : ∀ u, u ∈ kind.markers.all → ∀ q, p.pos + 1 ≤ q → q < p.pos + 1 + skip → occursAt u t q = false) :
    kind.markers.Reached t start ⟨p.pos + 1, skip, p.depth, o⟩ where
  start_lt := Nat.lt_succ_of_lt h.start_lt
  inside := h.inside
  level := by
    have hle := Nat.le_of_lt h.start_lt
    simp only [Text.occurrences_succ hle, hopen, hclose, h.level, Bool.toNat_false, Nat.add_zero]
  unclosed q hq hcloses := by
    rcases Nat.lt_or_eq_of_le (Nat.le_of_lt_succ hq) with hlt | rfl
    · exact h.unclosed q hlt hcloses
    · rw [hcloses.closing] at hclose
      cases hclose
  split := hsplit
  clear := hclear

/-- An opening marker raises the depth. -/
theorem Reached.opening (h : kind.markers.Reached t start p)
    (hopen : occursAt kind.markers.opening t p.pos = true) : kind.markers.Reached t start
      ⟨p.pos + 1, kind.markers.opening.length - 1, p.depth + 1, p.elsePos⟩ where
  start_lt := Nat.lt_succ_of_lt h.start_lt
  inside := Nat.succ_pos _
  level := by
    have hle := Nat.le_of_lt h.start_lt
    have hclose := occursAt_eq_false (opening_mem_all _) (closing_mem_all _) (opening_ne_closing kind) hopen
    simp only [Text.occurrences_succ hle, hopen, hclose, h.level, Bool.toNat_true, Bool.toNat_false]
    omega
  unclosed q hq hcloses := by
    rcases Nat.lt_or_eq_of_le (Nat.le_of_lt_succ hq) with hlt | rfl
    · exact h.unclosed q hlt hcloses
    · exact opening_ne_closing kind (eq_of_occursAt (opening_mem_all _) (closing_mem_all _) hopen
        hcloses.closing)
  split := h.split.succ fun _ => not_splitsAt_of_occursAt (.inl rfl) hopen
  clear _ hu _ := clear_of_occursAt (opening_mem_all _) hopen hu

/-- A closing marker that does not balance yet lowers the depth. -/
theorem Reached.closing (h : kind.markers.Reached t start p)
    (hclose : occursAt kind.markers.closing t p.pos = true) (hdepth : 1 < p.depth) : kind.markers.Reached t start
      ⟨p.pos + 1, kind.markers.closing.length - 1, p.depth - 1, p.elsePos⟩ where
  start_lt := Nat.lt_succ_of_lt h.start_lt
  inside := Nat.sub_pos_of_lt hdepth
  level := by
    have hle := Nat.le_of_lt h.start_lt
    have hopen := occursAt_eq_false (closing_mem_all _) (opening_mem_all _) (opening_ne_closing kind).symm
      hclose
    simp only [Text.occurrences_succ hle, hopen, hclose, h.level, Bool.toNat_true, Bool.toNat_false]
    omega
  unclosed q hq hcloses := by
    rcases Nat.lt_or_eq_of_le (Nat.le_of_lt_succ hq) with hlt | rfl
    · exact h.unclosed q hlt hcloses
    · have hbalance := hcloses.balance
      rw [Text.occurrences_succ hcloses.start_le, hclose, h.level, Bool.toNat_true] at hbalance
      omega
  split := h.split.succ fun _ => not_splitsAt_of_occursAt (.inr rfl) hclose
  clear _ hu _ := clear_of_occursAt (closing_mem_all _) hclose hu

/-- A closing marker at depth one balances. -/
theorem Reached.balanced (h : kind.markers.Reached t start p)
    (hclose : occursAt kind.markers.closing t p.pos = true) (hdepth : p.depth ≤ 1) :
    kind.markers.Balanced t start ⟨p.pos, p.elsePos⟩ where
  closes := by
    refine ⟨⟨Nat.le_of_lt h.start_lt, hclose, ?_⟩, fun q hq => ?_⟩
    · have := h.inside
      rw [Text.occurrences_succ (Nat.le_of_lt h.start_lt), hclose, h.level, Bool.toNat_true]
      omega
    · exact Nat.le_of_not_lt fun hlt => h.unclosed q hlt hq
  split := h.split

/-- The first alternative marker at depth one is kept. -/
theorem Reached.alternative (h : kind.markers.Reached t start p) {marker : Text}
    (hmarker : marker ∈ kind.markers.alternative) (hocc : occursAt marker t p.pos = true) (hdepth : p.depth = 1)
    (hnone : p.elsePos = none) :
    kind.markers.Reached t start ⟨p.pos + 1, marker.length - 1, p.depth, some p.pos⟩ := by
  have hm := alternative_mem_all hmarker
  have hopen := occursAt_eq_false hm (opening_mem_all _) (ne_alternative hmarker).1.symm hocc
  have hclose := occursAt_eq_false hm (closing_mem_all _) (ne_alternative hmarker).2.symm hocc
  have hbefore := h.split
  rw [hnone] at hbefore
  refine h.pass hopen hclose ⟨?_, fun e he => ?_⟩ fun u hu q => clear_of_occursAt hm hocc hu
  · exact ⟨h.start_lt, Nat.lt_succ_self _, ⟨marker, hmarker, hocc⟩, by rw [h.level, hdepth]⟩
  · rcases splitsAt_succ_iff.1 he with he | ⟨rfl, -⟩
    · exact absurd he (hbefore e)
    · exact Nat.le_refl _

/-- Inside a marker no other one starts. -/
theorem Reached.within (h : kind.markers.Reached t start p) (hskip : 0 < p.skip) :
    kind.markers.Reached t start ⟨p.pos + 1, p.skip - 1, p.depth, p.elsePos⟩ := by
  have hnone : ∀ u, u ∈ kind.markers.all → occursAt u t p.pos = false := fun u hu =>
    h.clear u hu p.pos (Nat.le_refl _) (by omega)
  refine h.pass (hnone _ (opening_mem_all _)) (hnone _ (closing_mem_all _)) (h.split.succ fun _ hsplits => ?_)
    fun u hu q hq hlt => h.clear u hu q (by omega) (by omega)
  obtain ⟨marker, hmarker, hocc⟩ := hsplits.alternative
  rw [hnone marker (alternative_mem_all hmarker)] at hocc
  cases hocc

/-- An alternative marker is taken at depth one, if none was before. -/
theorem splitsHere_iff {m : Markers} {depth pos : Nat} {o : Option Nat} :
    m.splitsHere depth o (t.drop pos) = true ↔
      depth = 1 ∧ o = none ∧ ∃ marker ∈ m.alternative, occursAt marker t pos = true := by
  cases hmarker : m.alternative <;> simp [splitsHere, hmarker, occursAt, and_assoc]

/-- A position at which no marker is taken. -/
theorem Reached.other (h : kind.markers.Reached t start p) (hskip : ¬0 < p.skip)
    (hopen : ¬occursAt kind.markers.opening t p.pos = true) (hclose : ¬occursAt kind.markers.closing t p.pos = true)
    (hsplit : ¬kind.markers.splitsHere p.depth p.elsePos (t.drop p.pos) = true) :
    kind.markers.Reached t start ⟨p.pos + 1, p.skip, p.depth, p.elsePos⟩ := by
  refine h.pass (Bool.eq_false_iff.2 hopen) (Bool.eq_false_iff.2 hclose) (h.split.succ fun hnone hsplits => hsplit ?_)
    fun u hu q hq hlt => by omega
  have hdepth : p.depth = 1 := by
    have := hsplits.balance
    have := h.level
    omega
  exact splitsHere_iff.2 ⟨hdepth, hnone, hsplits.alternative⟩

/-- What a step of a scan makes of what was found so far. -/
def Finds (m : Markers) (t : Text) (start pos : Nat) : Except TagMatch Progress → Prop
  | .ok p => p.pos = pos ∧ m.Reached t start p
  | .error found => m.Balanced t start found

/-- **One step** goes on with what was found so far, or finds the balanced closing marker. -/
theorem Reached.step (h : kind.markers.Reached t start p) :
    kind.markers.Finds t start (p.pos + 1) (kind.markers.step (t.drop p.pos) p) := by
  rw [Markers.step]
  split
  · rename_i hskip
    exact ⟨rfl, h.within hskip⟩
  rename_i hskip
  split
  · rename_i hopen
    exact ⟨rfl, h.opening hopen⟩
  rename_i hopen
  split
  · rename_i hclose
    split
    · rename_i hends
      refine h.balanced hclose (hends.resolve_right ?_)
      cases kind <;> decide
    · rename_i hends
      exact ⟨rfl, h.closing hclose (by omega)⟩
  rename_i hclose
  split
  · rename_i hsplit
    obtain ⟨hdepth, hnone, marker, hmarker, hocc⟩ := splitsHere_iff.1 hsplit
    rw [alternativeLength_of_mem hmarker]
    exact ⟨rfl, h.alternative hmarker hocc hdepth hnone⟩
  · rename_i hsplit
    exact ⟨rfl, h.other hskip hopen hclose hsplit⟩

/-- **A scan** to the end of a text finds the balanced closing marker, or there is none. -/
theorem Reached.scan : ∀ (s : Text) {p : Progress}, kind.markers.Reached t start p → t.drop p.pos = s →
    p.pos ≤ t.length → kind.markers.Finds t start t.length (kind.markers.scan s p)
  | [], p, h, hs, hle => by
    have := List.drop_eq_nil_iff.1 hs
    exact ⟨by omega, h⟩
  | c :: cs, p, h, hs, hle => by
    have hstep := h.step
    have hlt : p.pos < t.length := by
      by_contra hge
      rw [List.drop_eq_nil_of_le (by omega)] at hs
      cases hs
    rw [hs] at hstep
    rw [Markers.scan]
    cases hfound : kind.markers.step (c :: cs) p with
    | error found =>
      rw [hfound] at hstep
      exact hstep
    | ok p' =>
      rw [hfound] at hstep
      obtain ⟨hpos, hreached⟩ := hstep
      refine Reached.scan cs hreached ?_ (by omega)
      rw [hpos, ← List.drop_drop, hs]
      rfl

end Steps

/-! ## Matches -/

section Matches

variable {start : Nat}

theorem not_splitsAt_start {m : Markers} {e : Nat} : ¬m.SplitsAt t start (start + 1) e := fun h => by
  have := h.start_lt
  have := h.lt_limit
  omega

/-- The scan from an opening marker has reached depth one after its first position. -/
theorem reached_start (h : occursAt kind.markers.opening t start = true) :
    kind.markers.Reached t start ⟨start + 1, kind.markers.opening.length - 1, 1, none⟩ where
  start_lt := Nat.lt_succ_self _
  inside := Nat.one_pos
  level := by
    have hclose := occursAt_eq_false (opening_mem_all _) (closing_mem_all _) (opening_ne_closing kind) h
    simp only [Text.occurrences_succ (Nat.le_refl start), Text.occurrences_self, h, hclose, Bool.toNat_true,
      Bool.toNat_false]
  unclosed q hq hcloses := by
    obtain rfl : q = start := Nat.le_antisymm (Nat.le_of_lt_succ hq) hcloses.start_le
    exact opening_ne_closing kind (eq_of_occursAt (opening_mem_all _) (closing_mem_all _) h hcloses.closing)
  split _ := not_splitsAt_start
  clear _ hu _ := clear_of_occursAt (opening_mem_all _) h hu

/-- The match of a tag is balanced, and there is one if any closing marker balances. -/
theorem finds_matchFrom (h : occursAt kind.markers.opening t start = true) :
    match kind.markers.matchFrom t start with
    | some found => kind.markers.Balanced t start found
    | none => ∀ p, ¬kind.markers.ClosesAt t start p := by
  have hpos : 0 < kind.markers.opening.length := by cases kind <;> decide
  have hlt : start < t.length := by
    have := Text.length_le_of_occursAt h
    omega
  obtain ⟨c, cs, hdrop⟩ : ∃ c cs, t.drop start = c :: cs := ⟨_, _, List.drop_eq_getElem_cons hlt⟩
  have hstep : kind.markers.step (c :: cs) (.start start)
      = .ok ⟨start + 1, kind.markers.opening.length - 1, 1, none⟩ := by
    rw [occursAt, hdrop] at h
    simp [Markers.step, Progress.start, h]
  have hrest : t.drop (start + 1) = cs := by
    rw [← List.drop_drop, hdrop]
    rfl
  have hscan := (reached_start h).scan cs hrest hlt
  rw [matchFrom, hdrop, scan_cons hstep]
  cases hfound : kind.markers.scan cs ⟨start + 1, kind.markers.opening.length - 1, 1, none⟩ with
  | error found =>
    rw [hfound] at hscan
    exact hscan
  | ok p =>
    rw [hfound] at hscan
    obtain ⟨hend, hreached⟩ := hscan
    intro q hcloses
    have hclosing : 0 < kind.markers.closing.length := by cases kind <;> decide
    have := Text.length_le_of_occursAt hcloses.closing
    exact hreached.unclosed q (by omega) hcloses

/-- A match is found exactly where a closing marker balances, at the first one. -/
theorem matchFrom_eq_some_iff (h : occursAt kind.markers.opening t start = true) {found : TagMatch} :
    kind.markers.matchFrom t start = some found ↔ kind.markers.Balanced t start found := by
  have hfinds := finds_matchFrom h
  cases hmatch : kind.markers.matchFrom t start with
  | some found' =>
    rw [hmatch] at hfinds
    constructor
    · rintro ⟨⟩
      exact hfinds
    · exact fun hbalanced => congrArg some (hfinds.unique hbalanced)
  | none =>
    rw [hmatch] at hfinds
    exact ⟨nofun, fun hbalanced => absurd hbalanced.closes.1 (hfinds _)⟩

theorem matchFrom_eq_none_iff (h : occursAt kind.markers.opening t start = true) :
    kind.markers.matchFrom t start = none ↔ ∀ p, ¬kind.markers.ClosesAt t start p := by
  have hfinds := finds_matchFrom h
  cases hmatch : kind.markers.matchFrom t start with
  | some found' =>
    rw [hmatch] at hfinds
    exact ⟨nofun, fun hnone => absurd hfinds.closes.1 (hnone _)⟩
  | none =>
    rw [hmatch] at hfinds
    exact ⟨fun _ => hfinds, fun _ => rfl⟩

end Matches

end Markers

end Stencil
