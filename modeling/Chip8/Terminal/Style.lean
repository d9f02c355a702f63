import Chip8.Text.Integer

/-! Style definitions: words for attributes and colours, `on` before the colour of the ground,
`not` before an attribute that is taken away, `link` before a target. -/
namespace Chip8.Terminal
open Text

def lowerLetter (c : Char) : Char :=
  if ('A' ≤ c && c ≤ 'Z') || ('À' ≤ c && c ≤ 'Þ' && c ≠ '×') then Char.ofNat (c.toNat + 32)
  else if c = '\u212A' then 'k'
  else if c = '\u212B' then 'å'
  else c

def colourNames : List String :=
  ["black", "red", "green", "yellow", "blue", "magenta", "cyan", "white", "bright_black",
   "bright_red", "bright_green", "bright_yellow", "bright_blue", "bright_magenta", "bright_cyan",
   "bright_white", "grey0", "gray0", "navy_blue", "dark_blue", "blue3", "blue1", "dark_green",
   "deep_sky_blue4", "dodger_blue3", "dodger_blue2", "green4", "spring_green4", "turquoise4",
   "deep_sky_blue3", "dodger_blue1", "green3", "spring_green3", "dark_cyan", "light_sea_green",
   "deep_sky_blue2", "deep_sky_blue1", "spring_green2", "cyan3", "dark_turquoise", "turquoise2",
   "green1", "spring_green1", "medium_spring_green", "cyan2", "cyan1", "dark_red", "deep_pink4",
   "purple4", "purple3", "blue_violet", "orange4", "grey37", "gray37", "medium_purple4",
   "slate_blue3", "royal_blue1", "chartreuse4", "dark_sea_green4", "pale_turquoise4", "steel_blue",
   "steel_blue3", "cornflower_blue", "chartreuse3", "cadet_blue", "sky_blue3", "steel_blue1",
   "pale_green3", "sea_green3", "aquamarine3", "medium_turquoise", "chartreuse2", "sea_green2",
   "sea_green1", "aquamarine1", "dark_slate_gray2", "dark_magenta", "dark_violet", "purple",
   "light_pink4", "plum4", "medium_purple3", "slate_blue1", "yellow4", "wheat4", "grey53", "gray53",
   "light_slate_grey", "light_slate_gray", "medium_purple", "light_slate_blue", "dark_olive_green3",
   "dark_sea_green", "light_sky_blue3", "sky_blue2", "dark_sea_green3", "dark_slate_gray3",
   "sky_blue1", "chartreuse1", "light_green", "pale_green1", "dark_slate_gray1", "red3",
   "medium_violet_red", "magenta3", "dark_orange3", "indian_red", "hot_pink3", "medium_orchid3",
   "medium_orchid", "medium_purple2", "dark_goldenrod", "light_salmon3", "rosy_brown", "grey63",
   "gray63", "medium_purple1", "gold3", "dark_khaki", "navajo_white3", "grey69", "gray69",
   "light_steel_blue3", "light_steel_blue", "yellow3", "dark_sea_green2", "light_cyan3",
   "light_sky_blue1", "green_yellow", "dark_olive_green2", "dark_sea_green1", "pale_turquoise1",
   "deep_pink3", "magenta2", "hot_pink2", "orchid", "medium_orchid1", "orange3", "light_pink3",
   "pink3", "plum3", "violet", "light_goldenrod3", "tan", "misty_rose3", "thistle3", "plum2",
   "khaki3", "light_goldenrod2", "light_yellow3", "grey84", "gray84", "light_steel_blue1",
   "yellow2", "dark_olive_green1", "honeydew2", "light_cyan1", "red1", "deep_pink2", "deep_pink1",
   "magenta1", "orange_red1", "indian_red1", "hot_pink", "dark_orange", "salmon1", "light_coral",
   "pale_violet_red1", "orchid2", "orchid1", "orange1", "sandy_brown", "light_salmon1",
   "light_pink1", "pink1", "plum1", "gold1", "navajo_white1", "misty_rose1", "thistle1", "yellow1",
   "light_goldenrod1", "khaki1", "wheat1", "cornsilk1", "grey100", "gray100", "grey3", "gray3",
   "grey7", "gray7", "grey11", "gray11", "grey15", "gray15", "grey19", "gray19", "grey23", "gray23",
   "grey27", "gray27", "grey30", "gray30", "grey35", "gray35", "grey39", "gray39", "grey42",
   "gray42", "grey46", "gray46", "grey50", "gray50", "grey54", "gray54", "grey58", "gray58",
   "grey62", "gray62", "grey66", "gray66", "grey70", "gray70", "grey74", "gray74", "grey78",
   "gray78", "grey82", "gray82", "grey85", "gray85", "grey89", "gray89", "grey93", "gray93"]

inductive ColourError where
  | unknown
  | component (error : IntegerError)
  deriving DecidableEq, Repr

def isHexDigit (c : Char) : Bool := (digitIn? 16 c).isSome

def isComponentChar (c : Char) : Bool := c = ',' || (decimalDigit? c).isSome

def colourLimit : Nat := 255

def checkComponents (s : List Char) : Except ColourError Unit :=
  match ((String.ofList s).splitOn ",").map (readInteger 10) with
  | [red, green, blue] => do
    let components ← [red, green, blue].mapM fun c => c.mapError .component
    if components.all (· ≤ (colourLimit : Int)) then .ok () else .error .unknown
  | _ => .error .unknown

def argument? (name word : List Char) : Option (List Char) :=
  if (name ++ ['(']).isPrefixOf word ∧ word.getLast? = some ')' then
    some ((word.drop (name.length + 1)).dropLast)
  else none

def checkColour (word : List Char) : Except ColourError Unit :=
  if ("default" :: colourNames).contains (String.ofList word) then .ok ()
  else
    match word with
    | '#' :: digits =>
      if digits.length = 6 ∧ digits.all isHexDigit then .ok () else .error .unknown
    | _ =>
      match argument? "color".toList word, argument? "rgb".toList word with
      | some digits, _ =>
        if digits ≠ [] ∧ digits.length ≤ 3 ∧ digits.all Char.isDigit ∧
            natOfDigits 10 digits ≤ colourLimit then .ok ()
        else .error .unknown
      | none, some components =>
        if components ≠ [] ∧ components.all isComponentChar then checkComponents components
        else .error .unknown
      | none, none => .error .unknown

def attributeNames : List String :=
  ["dim", "d", "bold", "b", "italic", "i", "underline", "u", "blink", "blink2", "reverse", "r",
   "conceal", "c", "strike", "s", "underline2", "uu", "frame", "encircle", "overline", "o"]

def isAttribute (word : List Char) : Bool := attributeNames.contains (String.ofList word)

inductive Expected where
  | anything
  | ground
  | taken
  | target
  deriving DecidableEq, Repr

def expectedAfter? (word : List Char) : Option Expected :=
  if word = "on".toList then some .ground
  else if word = "not".toList then some .taken
  else if word = "link".toList then some .target
  else if isAttribute word then some .anything
  else none

/-- The fault of a definition. One that is unknown from some word on is read no further and has
none, because it counts as no style at all. -/
def definitionFault? : Expected → List (List Char) → Option IntegerError
  | _, [] => none
  | .target, _ :: rest => definitionFault? .anything rest
  | .taken, name :: rest => if isAttribute name then definitionFault? .anything rest else none
  | expected, original :: rest =>
    let word := original.map lowerLetter
    match expected, expectedAfter? word with
    | .anything, some next => definitionFault? next rest
    | _, _ =>
      match checkColour word with
      | .ok () => definitionFault? .anything rest
      | .error .unknown => none
      | .error (.component e) => some e

def words (s : List Char) : List (List Char) :=
  (s.splitBy fun a b => isBlank a == isBlank b).filter fun word => !word.any isBlank

def tagFault? (inside : List Char) : Option IntegerError :=
  let name := inside.takeWhile (· ≠ '=')
  let parameters := (inside.dropWhile (· ≠ '=')).drop 1
  definitionFault? .anything (words name) <|>
    definitionFault? .anything (words (name.map lowerLetter) ++ words parameters)

example : definitionFault? .anything ["not".toList, "bold".toList, "#00ff7f".toList] = none := by
  decide +kernel

end Chip8.Terminal
