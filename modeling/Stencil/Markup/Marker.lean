import Stencil.Text.Basic

/-!
# Matching the markers of a tag

* **Matching** (`Markers.matchFrom`): from the opening marker of a tag, the place of the closing marker that balances
  it, and of the first alternative marker that stands between them outside all inner tags.
* The scan walks forward with a depth (`Markers.step`): an opening marker raises it, a closing marker lowers it, and the
  scan ends where it comes back to zero. At each place the opening marker is tried first, then the closing one, then
  the alternative.
* A scan may start before the end of a text (`Markers.matchBefore`), and then goes on at its start.
-/

namespace Stencil

/-- The markers of a kind of tag. -/
structure Markers where
  opening : Text
  closing : Text
  /-- The marker between the two branches of a tag, for a kind that has one. -/
  alternative : Option Text

/-- Where a tag is closed, and where its second branch starts. -/
structure TagMatch where
  closePos : Nat
  elsePos : Option Nat
  deriving DecidableEq, Repr

namespace Markers

/-- Whether the alternative marker of the tag itself stands at the head of a text. -/
def splitsHere (m : Markers) (depth : Nat) (elsePos : Option Nat) (t : Text) : Bool :=
  match m.alternative with
  | some marker => depth == 1 && elsePos.isNone && marker.isPrefixOf t
  | none => false

/-- The number of characters of the alternative marker. -/
def alternativeLength (m : Markers) : Nat := (m.alternative.getD []).length

/-- How far a scan is: the places passed, the characters of a marker still to pass, the depth, and the place of the
alternative marker. -/
structure Progress where
  pos : Nat
  skip : Nat
  depth : Nat
  elsePos : Option Nat
  deriving DecidableEq, Repr

/-- The start of a scan at a position. -/
def Progress.start (pos : Nat) : Progress := ⟨pos, 0, 0, none⟩

/-- The step over one place, where a text starts. The match ends the scan. An empty closing marker lowers the depth to
zero at once. -/
def step (m : Markers) (t : Text) (p : Progress) : Except TagMatch Progress :=
  let passed := { p with pos := p.pos + 1 }
  if p.skip > 0 then .ok { passed with skip := p.skip - 1 }
  else if m.opening.isPrefixOf t then .ok { passed with skip := m.opening.length - 1, depth := p.depth + 1 }
  else if m.closing.isPrefixOf t then
    if p.depth ≤ 1 ∨ m.closing = [] then .error ⟨p.pos, p.elsePos⟩
    else .ok { passed with skip := m.closing.length - 1, depth := p.depth - 1 }
  else if m.splitsHere p.depth p.elsePos t then
    .ok { passed with skip := m.alternativeLength - 1, elsePos := some p.pos }
  else .ok passed

/-- The scan of a text. -/
def scan (m : Markers) : Text → Progress → Except TagMatch Progress
  | [], p => .ok p
  | c :: cs, p =>
    match m.step (c :: cs) p with
    | .ok p => scan m cs p
    | .error found => .error found

/-- The match that ended a scan. -/
def found? : Except TagMatch Progress → Option TagMatch
  | .ok _ => none
  | .error found => some found

/-- The match of the tag that starts at a position of a text. Positions count from the start of the text. -/
def matchFrom (m : Markers) (t : Text) (start : Nat) : Option TagMatch :=
  found? (m.scan (t.drop start) (.start start))

/-! ## Positions before the end -/

/-- So many steps at one place. -/
def stay (m : Markers) (t : Text) : Nat → Progress → Except TagMatch Progress
  | 0, p => .ok p
  | n + 1, p =>
    match m.step t p with
    | .ok p => stay m t n p
    | .error found => .error found

/-- The match of the tag that starts so many characters before the end of a text. The scan goes on at the start of the
text when it comes to the end, and the positions before the start of the text stand for the start. Positions count
from the place where the scan starts. -/
def matchBefore (m : Markers) (t : Text) (back : Nat) : Option TagMatch :=
  found? do
    let p ← m.stay t (back - t.length) (.start 0)
    let p ← m.scan (t.drop (t.length - back)) p
    m.scan t p

end Markers

/-! ## The tags of the directive language -/

/-- The markers of a conditional. -/
def conditionalMarkers : Markers where
  opening := ['{', '{', '#', 'i', 'f', ' ']
  closing := ['{', '{', '/', 'i', 'f', '}', '}']
  alternative := some ['{', '{', 'e', 'l', 's', 'e', '}', '}']

/-- The markers of a loop. -/
def loopMarkers : Markers where
  opening := ['{', '{', '#', 'e', 'a', 'c', 'h', ' ']
  closing := ['{', '{', '/', 'e', 'a', 'c', 'h', '}', '}']
  alternative := none

end Stencil
