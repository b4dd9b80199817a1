import Stencil.Loading.Customizations
import Stencil.Proofs.Results
import Stencil.Proofs.Text.Lines

/-!
# Front matter and lines

* **By lines** (`splitByLines`): front matter stands between a first line that is a mark and the next such line. The
  program cuts a text at its first two marks instead, wherever they stand (`splitFrontMatter_of_parts`).
* Where these two marks **stand alone** (`MarksAlone`) the cuts are the same (`frontMatterLines?_of_alone`). Elsewhere a
  body that the program makes is longer than any by lines (`length_body_lt_of_not_alone`).
* Hence the front matter of a text is that of its lines exactly where the marks stand alone and the same is read from
  what is between them, or where nothing is taken both ways (`splitFrontMatter_eq_splitByLines_iff`).
-/

namespace Stencil

variable {parse : Text → Except Yaml.Fault Yaml.Document} {t header body : Text} {ls after : List Text}

/-! ## By lines -/

/-- The lines before the first mark among them, and the lines after it. -/
def cutLines? : List Text → Option (List Text × List Text)
  | [] => none
  | l :: ls =>
    if l = frontMatterMark then some ([], ls) else (cutLines? ls).map fun (before, after) => (l :: before, after)

/-- The lines between a first line that is a mark and the next such line, and the lines after that one. -/
def frontMatterLines? (t : Text) : Option (List Text × List Text) :=
  match Text.lines t with
  | [] => none
  | first :: rest => if first = frontMatterMark then cutLines? rest else none

/-- The entries of a mapping that is read; where nothing is read there are none. -/
def mappingFields? : Except Yaml.Fault Yaml.Document → Option Fields
  | .ok document =>
    match document.value.opened with
    | .record fields => some fields
    | .null => some []
    | _ => none
  | .error _ => none

/-- Entries and a body, or without entries the whole text. -/
def withBody (t body : Text) : Option Fields → Fields × Text
  | some fields => (fields, body.dropWhile (· = '\n'))
  | none => ([], t)

/-- The front matter and the body of a text by its lines. -/
def splitByLines (parse : Text → Except Yaml.Fault Yaml.Document) (t : Text) : Fields × Text :=
  match frontMatterLines? t with
  | none => ([], t)
  | some (ls, after) => withBody t (Text.join ['\n'] after) (mappingFields? (parse (Text.unlines ls)))

theorem cutLines?_eq_some_iff : ∀ {rest ls after : List Text}, cutLines? rest = some (ls, after) ↔
    rest = ls ++ frontMatterMark :: after ∧ frontMatterMark ∉ ls
  | [], ls, after => by simp [cutLines?]
  | l :: rest, ls, after => by
    rw [cutLines?]
    split
    · rename_i hl
      subst hl
      cases ls <;> simp +contextual [eq_comm]
    · rename_i hl
      rw [Option.map_eq_some_iff]
      constructor
      · rintro ⟨⟨before, after'⟩, hcut, heq⟩
        cases heq
        obtain ⟨rfl, hfree⟩ := cutLines?_eq_some_iff.1 hcut
        exact ⟨rfl, by simpa [eq_comm] using ⟨hl, hfree⟩⟩
      · rintro ⟨hrest, hfree⟩
        cases ls with
        | nil => exact absurd (List.cons.inj hrest).1 hl
        | cons l' ls =>
          obtain ⟨rfl, rfl⟩ := List.cons.inj hrest
          exact ⟨(ls, after), cutLines?_eq_some_iff.2 ⟨rfl, fun h => hfree (List.mem_cons_of_mem _ h)⟩, rfl⟩

theorem frontMatterLines?_eq_some_iff : frontMatterLines? t = some (ls, after) ↔
    Text.lines t = frontMatterMark :: (ls ++ frontMatterMark :: after) ∧ frontMatterMark ∉ ls := by
  unfold frontMatterLines?
  cases Text.lines t with
  | nil => simp
  | cons first rest =>
    simp only [List.cons.injEq, and_assoc, ← cutLines?_eq_some_iff]
    split <;> simp_all

/-- What is made of lines that have front matter. -/
theorem eq_of_frontMatterLines? (h : frontMatterLines? t = some (ls, after)) :
    t = frontMatterMark
      ++ ((Point.char '\n' :: Text.unlines ls) ++ (frontMatterMark ++ after.flatMap (Point.char '\n' :: ·))) := by
  obtain ⟨hlines, -⟩ := frontMatterLines?_eq_some_iff.1 h
  rw [← Text.join_splitAt '\n' t, ← Text.lines, hlines, Text.join_cons, List.flatMap_append, List.flatMap_cons,
    List.cons_append, Text.flatMap_newline_append, List.cons_append]

/-- The newline before lines is dropped with those that they start with. -/
theorem dropWhile_flatMap_newline (after : List Text) :
    (after.flatMap (Point.char '\n' :: ·)).dropWhile (· = Point.char '\n')
      = (Text.join ['\n'] after).dropWhile (· = Point.char '\n') := by
  cases after with
  | nil => rfl
  | cons l ls =>
    rw [Text.join_cons, List.flatMap_cons, List.cons_append, List.dropWhile_cons_of_pos (by simp)]

/-! ## At marks -/

/-- What is taken from a reading for front matter: the entries of a record, none where the value counts as nothing, and
nothing of any other value. Only a value that does not exist is an error. -/
def takenFields : Except Yaml.Fault Yaml.Document → Except Yaml.Fault (Option Fields)
  | .ok document =>
    match document.value.opened with
    | .record fields => .ok (some fields)
    | _ => .ok (if document.isEmpty then some [] else none)
  | .error .malformed => .ok none
  | .error fault => .error fault

theorem splitFrontMatter_of_parts (h : frontMatterParts? t = some (header, body)) :
    splitFrontMatter parse t = do return withBody t body (← takenFields (parse header)) := by
  unfold splitFrontMatter takenFields
  rw [h]
  simp only
  cases hread : parse header with
  | ok document =>
    simp only
    cases document.value.opened <;> cases document.isEmpty <;> rfl
  | error fault => cases fault <;> rfl

theorem frontMatterParts?_eq_some (h : frontMatterParts? t = some (header, body)) :
    t = frontMatterMark ++ (header ++ (frontMatterMark ++ body)) ∧
      Text.cutAt? frontMatterMark (header ++ (frontMatterMark ++ body)) = some (header, body) := by
  obtain ⟨rest, hrest, hcut⟩ := Option.bind_eq_some_iff.1 h
  obtain rfl := Text.eq_of_cutAt? hcut
  exact ⟨Text.after?_eq_some hrest, hcut⟩

/-! ## Marks that stand alone -/

/-- The first two marks of a text stand alone on their lines. -/
structure MarksAlone (header body : Text) : Prop where
  afterFirst : header.head? = some (Point.char '\n')
  beforeSecond : header.getLast? = some (Point.char '\n')
  afterSecond : ∀ c ∈ body.head?, c = '\n'

/-- A cut is at the first mark. -/
theorem length_le_of_parts (h : frontMatterParts? t = some (header, body)) {u v : Text}
    (ht : t = frontMatterMark ++ (u ++ (frontMatterMark ++ v))) : header.length ≤ u.length := by
  obtain ⟨hparts, hcut⟩ := frontMatterParts?_eq_some h
  obtain ⟨before, rest, hfirst, hle⟩ := Text.cutAt?_append frontMatterMark v u
  rw [← List.append_cancel_left (hparts.symm.trans ht), hcut] at hfirst
  cases hfirst
  exact hle

/-- The lines of a text from a mark that stands alone. -/
theorem exists_lines_of_mark (h : ∀ c ∈ body.head?, c = '\n') : ∃ after,
    Text.lines (frontMatterMark ++ body) = frontMatterMark :: after ∧
      body.dropWhile (· = Point.char '\n') = (Text.join ['\n'] after).dropWhile (· = Point.char '\n') := by
  have hfree : Point.char '\n' ∉ frontMatterMark := by decide
  cases body with
  | nil => exact ⟨[], by rw [List.append_nil, Text.lines_of_not_mem hfree], rfl⟩
  | cons c cs =>
    obtain rfl := h c rfl
    refine ⟨Text.lines cs, Text.lines_append_newline hfree cs, ?_⟩
    rw [Text.lines, Text.join_splitAt, List.dropWhile_cons_of_pos (by simp)]

/-- Where the marks stand alone, the cut by lines is that at the marks. -/
theorem frontMatterLines?_of_alone (h : frontMatterParts? t = some (header, body)) (ha : MarksAlone header body) :
    ∃ ls after, frontMatterLines? t = some (ls, after) ∧ header = Point.char '\n' :: Text.unlines ls ∧
      body.dropWhile (· = Point.char '\n') = (Text.join ['\n'] after).dropWhile (· = Point.char '\n') := by
  obtain ⟨ht, -⟩ := frontMatterParts?_eq_some h
  obtain ⟨inside, rfl⟩ : ∃ inside, header = Point.char '\n' :: inside := by
    have hfirst := ha.afterFirst
    cases header with
    | nil => cases hfirst
    | cons c cs => exact ⟨cs, by rw [Option.some.inj hfirst]⟩
  obtain ⟨ls, rfl, hfree⟩ : ∃ ls, inside = Text.unlines ls ∧ ∀ l ∈ ls, Point.char '\n' ∉ l := by
    refine Text.exists_unlines fun c hc => ?_
    have hlast := ha.beforeSecond
    rw [List.getLast?_cons, Option.mem_def.1 hc] at hlast
    exact Option.some.inj hlast
  obtain ⟨after, hafter, hbody⟩ := exists_lines_of_mark ha.afterSecond
  refine ⟨ls, after, frontMatterLines?_eq_some_iff.2 ⟨?_, fun hmark => ?_⟩, rfl, hbody⟩
  · rw [ht, List.cons_append, Text.lines_append_newline (by decide), Text.lines_unlines_append _ hfree, hafter]
  · -- A mark among the lines would come before the one that the text is cut at.
    obtain ⟨first, second, rfl⟩ := List.append_of_mem hmark
    have hlt := length_le_of_parts h (u := '\n' :: Text.unlines first)
      (v := '\n' :: (Text.unlines second ++ (frontMatterMark ++ body))) (by
        rw [ht]
        simp [Text.unlines])
    simp only [Text.unlines, List.length_cons, List.flatMap_append, List.flatMap_cons, List.length_append] at hlt
    omega

theorem marksAlone_unlines (ls after : List Text) :
    MarksAlone ('\n' :: Text.unlines ls) (after.flatMap ('\n' :: ·)) where
  afterFirst := rfl
  beforeSecond := by
    rcases List.eq_nil_or_concat ls with rfl | ⟨ls, l, rfl⟩
    · rfl
    · have hends : Point.char '\n' :: Text.unlines (ls ++ [l])
          = (Point.char '\n' :: (Text.unlines ls ++ l)) ++ [Point.char '\n'] := by
        simp [Text.unlines]
      rw [List.concat_eq_append, hends, List.getLast?_concat]
  afterSecond := by
    intro c hc
    cases after with
    | nil => cases hc
    | cons l ls => exact (Option.some.inj hc).symm

/-- What is dropped from the head of a text is before any other character. -/
theorem length_le_dropWhile {p : Point → Bool} {c : Point} (hc : p c = false) (v : Text) : ∀ u : Text,
    (c :: v).length ≤ ((u ++ c :: v).dropWhile p).length
  | [] => by
    have hkeep : (c :: v).dropWhile p = c :: v := List.dropWhile_cons_of_neg (by simp [hc])
    exact Nat.le_of_eq (congrArg List.length hkeep.symm)
  | d :: ds => by
    have ih := length_le_dropWhile hc v ds
    rw [List.cons_append, List.dropWhile_cons]
    split
    · exact ih
    · simp only [List.length_cons, List.length_append]
      omega

/-- Of two marks with a newline right before the second one, the second is after the first. -/
theorem exists_between_marks {a u v : Text} (h : frontMatterMark ++ v = a ++ Point.char '\n' :: u) :
    ∃ between, v = between ++ Point.char '\n' :: u := by
  rcases List.append_eq_append_iff.1 h with ⟨between, rfl, hv⟩ | ⟨rest, hmark, hrest⟩
  · exact ⟨between, hv⟩
  · cases rest with
    | nil => exact ⟨[], hrest.symm⟩
    | cons c cs =>
      obtain ⟨rfl, -⟩ := List.cons.inj hrest
      have hmem : Point.char '\n' ∈ frontMatterMark := hmark ▸ List.mem_append_right a List.mem_cons_self
      exact absurd hmem (by decide)

/-- Where a mark does not stand alone, the text is cut before the second line that is a mark, and the body is longer. -/
theorem length_body_lt_of_not_alone (h : frontMatterParts? t = some (header, body)) (ha : ¬MarksAlone header body)
    (hlines : frontMatterLines? t = some (ls, after)) :
    ((Text.join ['\n'] after).dropWhile (· = Point.char '\n')).length
      < (body.dropWhile (· = Point.char '\n')).length := by
  obtain ⟨ht, -⟩ := frontMatterParts?_eq_some h
  have hwhole := eq_of_frontMatterLines? hlines
  have hle := length_le_of_parts h hwhole
  have hsame := List.append_cancel_left (ht.symm.trans hwhole)
  have halone := marksAlone_unlines ls after
  obtain ⟨inside, hinside⟩ := List.getLast?_eq_some_iff.1 halone.beforeSecond
  rw [hinside] at hsame hle
  rcases Nat.eq_or_lt_of_le hle with heq | hlt
  · -- Cut at the same place, the marks would be those of the lines.
    obtain ⟨rfl, hbody⟩ := List.append_inj hsame heq
    obtain rfl := List.append_cancel_left hbody
    exact absurd (hinside ▸ halone) ha
  · obtain ⟨a, ha'⟩ : ∃ a, frontMatterMark ++ body
        = a ++ Point.char '\n' :: (frontMatterMark ++ after.flatMap (Point.char '\n' :: ·)) := by
      rw [List.append_assoc, List.append_eq_append_iff] at hsame
      rcases hsame with ⟨a, -, hrest⟩ | ⟨a, hheader, hrest⟩
      · exact ⟨a, hrest⟩
      · rw [hheader, List.length_append, List.length_append, List.length_singleton] at hlt
        obtain rfl : a = [] := List.eq_nil_of_length_eq_zero (by omega)
        exact ⟨[], hrest.symm⟩
    obtain ⟨between, rfl⟩ := exists_between_marks ha'
    have hlong := length_le_dropWhile (p := (· = '\n')) (c := '-') (by decide)
      ([Point.char '-', '-'] ++ after.flatMap (Point.char '\n' :: ·)) (between ++ [Point.char '\n'])
    have hshort := (List.dropWhile_sublist (p := (· = '\n')) (l := after.flatMap (Point.char '\n' :: ·))).length_le
    rw [dropWhile_flatMap_newline] at hshort
    simp only [List.append_assoc, List.length_cons, List.length_append] at hlong
    refine Nat.lt_of_lt_of_le ?_ hlong
    omega

/-! ## Front matter -/

/-- How the program comes to the front matter that the lines of a text have. -/
inductive CutsByLines (parse : Text → Except Yaml.Fault Yaml.Document) (t : Text) : Prop
  /-- The text does not start with a mark, or has no other one. -/
  | unmarked : frontMatterParts? t = none → CutsByLines parse t
  /-- The marks stand alone, and the same is taken from what is between them, with the end of the first line and without
  it. -/
  | alone {header body : Text} : frontMatterParts? t = some (header, body) → MarksAlone header body →
    takenFields (parse header) = .ok (mappingFields? (parse header.tail)) → CutsByLines parse t
  /-- A mark does not stand alone. Nothing is taken from what is between the first two, and no mapping stands between
  lines that are marks. -/
  | refused {header body : Text} : frontMatterParts? t = some (header, body) → ¬MarksAlone header body →
    takenFields (parse header) = .ok none →
    (∀ ls after, frontMatterLines? t = some (ls, after) → mappingFields? (parse (Text.unlines ls)) = none) →
    CutsByLines parse t

/-- Without two marks there is no front matter by lines. -/
theorem frontMatterLines?_of_unmarked (h : frontMatterParts? t = none) : frontMatterLines? t = none := by
  cases hlines : frontMatterLines? t with
  | none => rfl
  | some found =>
    obtain ⟨ls, after⟩ := found
    rw [frontMatterParts?, eq_of_frontMatterLines? hlines, Text.after?_append, Option.bind_some] at h
    obtain ⟨before, rest, hcut, -⟩ :=
      Text.cutAt?_append frontMatterMark (after.flatMap ('\n' :: ·)) ('\n' :: Text.unlines ls)
    rw [hcut] at h
    cases h

/-- A body is shorter than its text. -/
theorem length_lt_of_parts (h : frontMatterParts? t = some (header, body)) :
    (body.dropWhile (· = Point.char '\n')).length < t.length := by
  obtain ⟨ht, -⟩ := frontMatterParts?_eq_some h
  have hle := (List.dropWhile_sublist (p := (· = '\n')) (l := body)).length_le
  have hmark : frontMatterMark.length = 3 := rfl
  rw [ht]
  simp only [List.length_append]
  omega

/-- Where a body is shorter than its text, the two tell whether there are entries. -/
theorem withBody_inj (h : (body.dropWhile (· = Point.char '\n')).length < t.length) {o o' : Option Fields} :
    withBody t body o = withBody t body o' ↔ o = o' := by
  refine ⟨fun heq => ?_, congrArg _⟩
  cases o <;> cases o' <;> simp only [withBody, Prod.mk.injEq] at heq
  · rfl
  · rw [← heq.2] at h
    exact absurd h (Nat.lt_irrefl _)
  · rw [heq.2] at h
    exact absurd h (Nat.lt_irrefl _)
  · rw [heq.1]

/-- Where the marks stand alone, the program takes what stands there by lines if it takes the same from the reading. -/
theorem splitFrontMatter_of_alone (h : frontMatterParts? t = some (header, body)) (ha : MarksAlone header body) :
    splitFrontMatter parse t = .ok (splitByLines parse t) ↔
      takenFields (parse header) = .ok (mappingFields? (parse header.tail)) := by
  obtain ⟨ls, after, hlines, rfl, hbody⟩ := frontMatterLines?_of_alone h ha
  have hsame : ∀ o, withBody t (Text.join ['\n'] after) o = withBody t body o := fun o => by
    cases o <;> simp only [withBody, hbody]
  have hlt := length_lt_of_parts h
  simp only [splitFrontMatter_of_parts h, splitByLines, hlines, hsame, map_eq_ok_iff]
  constructor
  · rintro ⟨o, ho, heq⟩
    rw [ho, (withBody_inj hlt).1 heq]
    rfl
  · exact fun htaken => ⟨_, htaken, rfl⟩

/-- Where a mark does not stand alone, the program comes to what the lines say only if it takes nothing. -/
theorem splitFrontMatter_of_not_alone (h : frontMatterParts? t = some (header, body)) (ha : ¬MarksAlone header body) :
    splitFrontMatter parse t = .ok (splitByLines parse t) ↔ takenFields (parse header) = .ok none ∧
      ∀ ls after, frontMatterLines? t = some (ls, after) → mappingFields? (parse (Text.unlines ls)) = none := by
  have hlt := length_lt_of_parts h
  rw [splitFrontMatter_of_parts h, splitByLines, map_eq_ok_iff]
  cases hlines : frontMatterLines? t with
  | none =>
    have hnone : (([], t) : Fields × Text) = withBody t body none := rfl
    simp [hnone, withBody_inj hlt]
  | some found =>
    obtain ⟨ls, after⟩ := found
    have hshorter := length_body_lt_of_not_alone h ha hlines
    have hshort := Nat.lt_trans hshorter hlt
    constructor
    · rintro ⟨o, ho, heq⟩
      cases o with
      | none =>
        have hwhole : withBody t body none = withBody t (Text.join ['\n'] after) none := rfl
        refine ⟨ho, fun _ _ hfound => ?_⟩
        cases hfound
        exact ((withBody_inj hshort).1 (hwhole.symm.trans heq)).symm
      | some fields =>
        have hbody := congrArg (fun r => r.2.length) heq
        cases hmapping : mappingFields? (parse (Text.unlines ls)) <;> simp only [hmapping, withBody] at hbody <;> omega
    · rintro ⟨htaken, hnone⟩
      exact ⟨none, htaken, by simp only [hnone ls after rfl]; rfl⟩

/-- **Front matter is cut at marks and not at lines.** For every reader of front matter and every text: the program
gives what the lines of the text say exactly where it has no two marks, where the first two marks stand alone and the
reading takes from what is between them what a mapping or nothing has there, and where nothing is taken both ways. So a
mark within a line, where a mapping stands before it or around it, gives another front matter or another body. -/
theorem splitFrontMatter_eq_splitByLines_iff (parse : Text → Except Yaml.Fault Yaml.Document) (t : Text) :
    splitFrontMatter parse t = .ok (splitByLines parse t) ↔ CutsByLines parse t := by
  constructor
  · intro heq
    cases hparts : frontMatterParts? t with
    | none => exact .unmarked hparts
    | some found =>
      by_cases ha : MarksAlone found.1 found.2
      · exact .alone hparts ha ((splitFrontMatter_of_alone hparts ha).1 heq)
      · obtain ⟨htaken, hnone⟩ := (splitFrontMatter_of_not_alone hparts ha).1 heq
        exact .refused hparts ha htaken hnone
  · intro hcuts
    cases hcuts with
    | unmarked hparts =>
      rw [splitByLines, frontMatterLines?_of_unmarked hparts]
      unfold splitFrontMatter
      rw [hparts]
    | alone hparts ha htaken => exact (splitFrontMatter_of_alone hparts ha).2 htaken
    | refused hparts ha htaken hnone => exact (splitFrontMatter_of_not_alone hparts ha).2 ⟨htaken, hnone⟩

/-- A title with a mark in it is cut there, and not at the line after it. -/
example : frontMatterParts? "---\nt: a---b\n---\nBody\n".text = some ("\nt: a".text, "b\n---\nBody\n".text) ∧
    frontMatterLines? "---\nt: a---b\n---\nBody\n".text = some (["t: a---b".text], ["Body".text, []]) := by
  decide +kernel

end Stencil
