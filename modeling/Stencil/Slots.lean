import Stencil.Text.Digit
import Stencil.Text.Scan

/-!
# Slots

* **Tokens** (`slotToken`): a text held out of band is stood for by its number between two private characters, which
  no tag and no placeholder contains.
* **Restoring** (`Slots.restore`): the tokens of a text are replaced by the texts held for them, and what replaces a
  token is not read again. A number beyond those held stays as written.
* A run of more than `digitLimit` digits between the two characters is refused.
-/

namespace Stencil

/-- The character that a token starts with. -/
def slotOpen : Point := '\uE000'

/-- The character that a token ends with. -/
def slotClose : Point := '\uE001'

/-- The token of the text that was held after `index` others. -/
def slotToken (index : Nat) : Text := slotOpen :: (Text.ofNat index ++ [slotClose])

/-- The digits of the token at the head of a text. -/
def slotDigits? : Text.Recogniser Text := fun t =>
  match t with
  | c :: cs =>
    if c = slotOpen then
      let digits := cs.takeWhile Text.isDigit
      match digits, cs.dropWhile Text.isDigit with
      | _ :: _, c' :: _ => if c' = slotClose then some (digits, digits.length + 2) else none
      | _, _ => none
    else none
  | [] => none

/-- The texts held so far, in the order held. -/
abbrev Slots := List Text

namespace Slots

/-- The slots with one more text held, and its token. -/
def hold (s : Slots) (t : Text) : Slots × Text := (s ++ [t], slotToken s.length)

/-- What stands for a token: the text held for its number, or the token as written. -/
def valueOf (s : Slots) (digits : Text) : Text :=
  match (Text.decimalValue? digits).bind fun index => s[index]? with
  | some held => held
  | none => slotOpen :: (digits ++ [slotClose])

/-- The text with its tokens replaced. -/
def fill (s : Slots) (t : Text) : Text := Text.replace slotDigits? s.valueOf t

/-- The number of digits of the first token of a text that has more of them than the limit. -/
def overlong? (t : Text) : Option Nat :=
  (Text.pieces slotDigits? t).findSome? fun
    | .char _ => none
    | .item digits => if digits.length > digitLimit then some digits.length else none

/-- The text with its tokens replaced, or the number of digits of a token that has too many. Where nothing is held,
nothing is read. -/
def restore (s : Slots) (t : Text) : Except Nat Text :=
  if s.isEmpty then .ok t
  else match overlong? t with
    | some count => .error count
    | none => .ok (s.fill t)

end Slots

end Stencil
