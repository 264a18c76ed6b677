import CardQuery.Text.Blank
import CardQuery.Text.Word

/-!
# Colours

The words that stand for a colour in markup: names, six hexadecimal digits, a number in a palette,
and three parts for red, green and blue.

Main results:

- `check_of_mem_names` says that every name is a colour.
-/

namespace CardQuery

namespace Markup

/-- Why words are no style. -/
inductive StyleFault
  /-- A word has no meaning in a style. -/
  | noStyle
  /-- A part of a colour is not a number that can be read. -/
  | unreadableNumber
deriving DecidableEq, Repr

namespace Color

/-- The colours with names of their own. -/
def ownNames : List String :=
  ["black", "red", "green", "yellow", "blue", "magenta", "cyan", "white", "bright_black",
   "bright_red", "bright_green", "bright_yellow", "bright_blue", "bright_magenta", "bright_cyan",
   "bright_white", "navy_blue", "dark_blue", "blue3", "blue1", "dark_green", "deep_sky_blue4",
   "dodger_blue3", "dodger_blue2", "green4", "spring_green4", "turquoise4", "deep_sky_blue3",
   "dodger_blue1", "green3", "spring_green3", "dark_cyan", "light_sea_green", "deep_sky_blue2",
   "deep_sky_blue1", "spring_green2", "cyan3", "dark_turquoise", "turquoise2", "green1",
   "spring_green1", "medium_spring_green", "cyan2", "cyan1", "dark_red", "deep_pink4", "purple4",
   "purple3", "blue_violet", "orange4", "medium_purple4", "slate_blue3", "royal_blue1",
   "chartreuse4", "dark_sea_green4", "pale_turquoise4", "steel_blue", "steel_blue3",
   "cornflower_blue", "chartreuse3", "cadet_blue", "sky_blue3", "steel_blue1", "pale_green3",
   "sea_green3", "aquamarine3", "medium_turquoise", "chartreuse2", "sea_green2", "sea_green1",
   "aquamarine1", "dark_slate_gray2", "dark_magenta", "dark_violet", "purple", "light_pink4",
   "plum4", "medium_purple3", "slate_blue1", "yellow4", "wheat4", "light_slate_grey",
   "light_slate_gray", "medium_purple", "light_slate_blue", "dark_olive_green3", "dark_sea_green",
   "light_sky_blue3", "sky_blue2", "dark_sea_green3", "dark_slate_gray3", "sky_blue1",
   "chartreuse1", "light_green", "pale_green1", "dark_slate_gray1", "red3", "medium_violet_red",
   "magenta3", "dark_orange3", "indian_red", "hot_pink3", "medium_orchid3", "medium_orchid",
   "medium_purple2", "dark_goldenrod", "light_salmon3", "rosy_brown", "medium_purple1", "gold3",
   "dark_khaki", "navajo_white3", "light_steel_blue3", "light_steel_blue", "yellow3",
   "dark_sea_green2", "light_cyan3", "light_sky_blue1", "green_yellow", "dark_olive_green2",
   "dark_sea_green1", "pale_turquoise1", "deep_pink3", "magenta2", "hot_pink2", "orchid",
   "medium_orchid1", "orange3", "light_pink3", "pink3", "plum3", "violet", "light_goldenrod3",
   "tan", "misty_rose3", "thistle3", "plum2", "khaki3", "light_goldenrod2", "light_yellow3",
   "light_steel_blue1", "yellow2", "dark_olive_green1", "honeydew2", "light_cyan1", "red1",
   "deep_pink2", "deep_pink1", "magenta1", "orange_red1", "indian_red1", "hot_pink", "dark_orange",
   "salmon1", "light_coral", "pale_violet_red1", "orchid2", "orchid1", "orange1", "sandy_brown",
   "light_salmon1", "light_pink1", "pink1", "plum1", "gold1", "navajo_white1", "misty_rose1",
   "thistle1", "yellow1", "light_goldenrod1", "khaki1", "wheat1", "cornsilk1"]

/-- The shades of grey, by their brightness in hundredths. -/
def shades : List Nat :=
  [0, 3, 7, 11, 15, 19, 23, 27, 30, 35, 37, 39, 42, 46, 50, 53, 54, 58, 62, 63, 66, 69, 70, 74, 78,
   82, 84, 85, 89, 93, 100]

/-- The names of colours.  Shades of grey have two spellings. -/
def names : List Text :=
  "default".toList :: ownNames.map String.toList ++
    shades.flatMap fun shade =>
      ["grey".toList ++ Text.ofNat shade, "gray".toList ++ Text.ofNat shade]

/-- The greatest number of a colour in the palette and of a part of a colour. -/
def maxPart : Nat := 255

/-- Whether a character is a hexadecimal digit with a small letter. -/
def isHexDigit (c : Char) : Bool := Text.isDigit c || decide ('a' ≤ c ∧ c ≤ 'f')

/-- What stands between a beginning and the closing parenthesis at the end of a word. -/
def inner? (lead word : Text) : Option Text :=
  match Text.after? lead word with
  | some rest => if rest.getLast? = some ')' then some rest.dropLast else none
  | none => none

/-- The number that decimal digits of any script denote. -/
def readPart (digits : Text) : Except StyleFault Nat :=
  if digits.isEmpty || Text.maxNumeralDigits < digits.length then .error .unreadableNumber
  else .ok (digits.foldl (fun n c => 10 * n + (Text.decimalValue? c).getD 0) 0)

/-- Whether three parts, given by their digits and with commas between them, are a colour. -/
def checkParts (inner : Text) : Except StyleFault Unit := do
  if inner.isEmpty || !inner.all fun c => c == ',' || (Text.decimalValue? c).isSome then
    throw .noStyle
  let parts := Text.partsBetween (· == ',') inner
  if parts.length ≠ 3 then throw .noStyle
  let numbers ← parts.mapM readPart
  if numbers.any (maxPart < ·) then throw .noStyle

/-- Whether a word is a number sign and six hexadecimal digits. -/
def isHexadecimal : Text → Bool
  | '#' :: digits => digits.length == 6 && digits.all isHexDigit
  | _ => false

/-- Whether a word asks for a colour of the palette by its number. -/
def isPaletteColor (word : Text) : Bool :=
  (inner? "color(".toList word).any fun number =>
    1 ≤ number.length && number.length ≤ 3 && number.all Text.isDigit &&
      Text.toNat 10 number ≤ maxPart

/-- Whether a word in small letters stands for a colour. -/
def check (word : Text) : Except StyleFault Unit :=
  if word ∈ names ∨ isHexadecimal word ∨ isPaletteColor word then .ok ()
  else
    match inner? "rgb(".toList word with
    | some inner => checkParts inner
    | none => .error .noStyle

/-- Every name is a colour. -/
theorem check_of_mem_names {word : Text} (h : word ∈ names) : check word = .ok () := by
  rw [check, if_pos (Or.inl h)]

end Color

end Markup

end CardQuery
