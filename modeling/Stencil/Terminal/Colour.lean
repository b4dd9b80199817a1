import Stencil.Decimal.Numeral
import Stencil.Text.Lower

/-!
# Colours

* **Names** (`colourNames`): the names of the colours of a terminal, some of them in several shades.
* **Reading** (`Colour.ofText?`): a colour is written by its name, by its number in a palette, or by three components,
  in hexadecimal or in decimal digits.
-/

namespace Stencil

/-! ## Names -/

/-- The names of colours, with their shades. -/
def colourSource : List String :=
  ["aquamarine=1,3 black blue=,1,3 blue_violet bright_black bright_blue bright_cyan bright_green bright_magenta",
   "bright_red bright_white bright_yellow cadet_blue chartreuse=1,2,3,4 cornflower_blue cornsilk=1 cyan=,1,2,3",
   "dark_blue dark_cyan dark_goldenrod dark_green dark_khaki dark_magenta dark_olive_green=1,2,3 dark_orange=,3",
   "dark_red dark_sea_green=,1,2,3,4 dark_slate_gray=1,2,3 dark_turquoise dark_violet deep_pink=1,2,3,4",
   "deep_sky_blue=1,2,3,4 dodger_blue=1,2,3 gold=1,3",
   "gray=0,3,7,11,15,19,23,27,30,35,37,39,42,46,50,53,54,58,62,63,66,69,70,74,78,82,84,85,89,93,100 green=,1,3,4",
   "green_yellow grey=0,3,7,11,15,19,23,27,30,35,37,39,42,46,50,53,54,58,62,63,66,69,70,74,78,82,84,85,89,93,100",
   "honeydew=2 hot_pink=,2,3 indian_red=,1 khaki=1,3 light_coral light_cyan=1,3 light_goldenrod=1,2,3 light_green",
   "light_pink=1,3,4 light_salmon=1,3 light_sea_green light_sky_blue=1,3 light_slate_blue light_slate_gray",
   "light_slate_grey light_steel_blue=,1,3 light_yellow=3 magenta=,1,2,3 medium_orchid=,1,3 medium_purple=,1,2,3,4",
   "medium_spring_green medium_turquoise medium_violet_red misty_rose=1,3 navajo_white=1,3 navy_blue orange=1,3,4",
   "orange_red=1 orchid=,1,2 pale_green=1,3 pale_turquoise=1,4 pale_violet_red=1 pink=1,3 plum=1,2,3,4 purple=,3,4",
   "red=,1,3 rosy_brown royal_blue=1 salmon=1 sandy_brown sea_green=1,2,3 sky_blue=1,2,3 slate_blue=1,3",
   "spring_green=1,2,3,4 steel_blue=,1,3 tan thistle=1,3 turquoise=2,4 violet wheat=1,4 white yellow=,1,2,3,4"]

/-- The names of the shades of a colour. -/
def shadeNames (item : Text) : List Text :=
  match Text.cutAt? ['='] item with
  | some (name, shades) => (Text.splitAt ',' shades).map (name ++ ·)
  | none => [item]

/-- The names of colours. The last one is that of the colour that a terminal starts with. -/
def colourNames : List Text :=
  colourSource.flatMap (fun line => (Text.splitAt ' ' line.text).flatMap shadeNames) ++ ["default".text]

/-! ## Colours -/

/-- A colour, as it is written. -/
structure Colour where
  name : Text
  deriving DecidableEq, Repr

namespace Colour

/-- The most that a number or a component may be. -/
def limit : Nat := 255

/-- The text between an opening and a closing text. -/
def between? (opening closing t : Text) : Option Text :=
  (Text.after? opening t).bind fun rest =>
    if Text.endsWith closing rest then some (rest.take (rest.length - closing.length)) else none

/-- Whether a text writes three components by two hexadecimal digits each. -/
def isHexadecimal (t : Text) : Bool :=
  match t with
  | '#' :: digits => digits.length = 6 && digits.all fun c => (Text.hexValue? c).isSome && !c.isUpper
  | _ => false

/-- Whether a text writes a number of a palette. -/
def isNumbered (t : Text) : Bool :=
  match between? "color(".text ")".text t with
  | some digits =>
    digits.length ≤ 3 && (((Text.inBase? 10 digits).map fun n => decide (n ≤ limit)).getD false)
  | none => false

/-- What stands for the components of a text that writes them in decimal digits. -/
def components? (t : Text) : Option (List Text) :=
  (between? "rgb(".text ")".text t).bind fun inner =>
    if !inner.isEmpty && inner.all (fun c => Text.isDigit c || Text.isBlank c || c = ',') then
      some (Text.splitAt ',' inner)
    else none

/-- The colour that a text writes. Capital letters and blanks around it do not matter. Of three components each has to
be a numeral. -/
def ofText? (t : Text) : Except NumeralFault (Option Colour) := do
  let t := Text.strip (Text.lower t)
  if colourNames.contains t || isHexadecimal t || isNumbered t then return some ⟨t⟩
  match components? t with
  | some [red, green, blue] =>
    let values ← [red, green, blue].mapM (Numeral.integer 10)
    return if values.all (· ≤ limit) then some ⟨t⟩ else none
  | _ => return none

end Colour

end Stencil
