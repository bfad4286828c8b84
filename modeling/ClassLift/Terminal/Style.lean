import ClassLift.Text.Case
import ClassLift.Text.Digit
import ClassLift.Text.Pieces

/-!
# Styles

A style is a list of words: attributes such as `bold`, colours, and a link. Two
styles that look alike have the same normal form, in which the words stand in a
fixed order; a list of words that is no style is only put into lower case.
-/

namespace ClassLift.Terminal

/-- The names of colours, in lines of words. -/
def colourLines : List String :=
  ["black red green yellow blue magenta cyan white bright_black bright_red bright_green",
   "bright_yellow bright_blue bright_magenta bright_cyan bright_white gray0 grey0 navy_blue",
   "dark_blue blue3 blue1 dark_green deep_sky_blue4 dodger_blue3 dodger_blue2 green4",
   "spring_green4 turquoise4 deep_sky_blue3 dodger_blue1 dark_cyan light_sea_green",
   "deep_sky_blue2 deep_sky_blue1 green3 spring_green3 cyan3 dark_turquoise turquoise2",
   "green1 spring_green2 spring_green1 medium_spring_green cyan2 cyan1 purple4 purple3",
   "blue_violet gray37 grey37 medium_purple4 slate_blue3 royal_blue1 chartreuse4",
   "pale_turquoise4 steel_blue steel_blue3 cornflower_blue dark_sea_green4 cadet_blue",
   "sky_blue3 chartreuse3 sea_green3 aquamarine3 medium_turquoise steel_blue1 sea_green2",
   "sea_green1 dark_slate_gray2 dark_red dark_magenta orange4 light_pink4 plum4",
   "medium_purple3 slate_blue1 wheat4 gray53 grey53 light_slate_gray light_slate_grey",
   "medium_purple light_slate_blue yellow4 dark_sea_green light_sky_blue3 sky_blue2",
   "chartreuse2 pale_green3 dark_slate_gray3 sky_blue1 chartreuse1 light_green aquamarine1",
   "dark_slate_gray1 deep_pink4 medium_violet_red dark_violet purple medium_orchid3",
   "medium_orchid dark_goldenrod rosy_brown gray63 grey63 medium_purple2 medium_purple1",
   "dark_khaki navajo_white3 gray69 grey69 light_steel_blue3 light_steel_blue",
   "dark_olive_green3 dark_sea_green3 light_cyan3 light_sky_blue1 green_yellow",
   "dark_olive_green2 pale_green1 dark_sea_green2 pale_turquoise1 red3 deep_pink3 magenta3",
   "dark_orange3 indian_red hot_pink3 hot_pink2 orchid orange3 light_salmon3 light_pink3",
   "pink3 plum3 violet gold3 light_goldenrod3 tan misty_rose3 thistle3 plum2 yellow3 khaki3",
   "light_yellow3 gray84 grey84 light_steel_blue1 yellow2 dark_olive_green1 dark_sea_green1",
   "honeydew2 light_cyan1 red1 deep_pink2 deep_pink1 magenta2 magenta1 orange_red1",
   "indian_red1 hot_pink medium_orchid1 dark_orange salmon1 light_coral pale_violet_red1",
   "orchid2 orchid1 orange1 sandy_brown light_salmon1 light_pink1 pink1 plum1 gold1",
   "light_goldenrod2 navajo_white1 misty_rose1 thistle1 yellow1 light_goldenrod1 khaki1",
   "wheat1 cornsilk1 gray100 grey100 gray3 grey3 gray7 grey7 gray11 grey11 gray15 grey15",
   "gray19 grey19 gray23 grey23 gray27 grey27 gray30 grey30 gray35 grey35 gray39 grey39",
   "gray42 grey42 gray46 grey46 gray50 grey50 gray54 grey54 gray58 grey58 gray62 grey62",
   "gray66 grey66 gray70 grey70 gray74 grey74 gray78 grey78 gray82 grey82 gray85 grey85",
   "gray89 grey89 gray93 grey93"]

/-- The attributes in the order of the normal form, each with the letters that are short for it. -/
def attributes : List (String × List String) :=
  [("bold", ["b"]), ("dim", ["d"]), ("italic", ["i"]), ("underline", ["u"]), ("blink", []),
   ("blink2", []), ("reverse", ["r"]), ("conceal", ["c"]), ("strike", ["s"]),
   ("underline2", ["uu"]), ("frame", []), ("encircle", []), ("overline", ["o"])]

/-- The full name of an attribute. -/
def attribute? (word : String) : Option String :=
  (attributes.find? fun (name, short) => name == word || short.contains word).map Prod.fst

/-- Why words are no style: one of them is unknown, or has a part that is no number. -/
inductive StyleFault where
  | unknown
  | unreadable
deriving DecidableEq

def isHexDigit (character : Char) : Bool :=
  character.isDigit || ('a' ≤ character && character ≤ 'f')

/-- What stands between the given name with an opening bracket and a closing bracket at the end. -/
def inBrackets? (name word : List Char) : Option (List Char) :=
  let start := name ++ ['(']
  if word.take start.length == start && word.getLast? == some ')' && start.length < word.length then
    some (word.drop start.length).dropLast
  else none

/-- The number that digits of any script spell. -/
def numberOf (digits : List Char) : Nat :=
  digits.foldl (fun value digit => 10 * value + (Text.digitValue? digit).getD 0) 0

/-- The three parts of a colour are numbers up to 255. -/
def checkParts (parts : List (List Char)) : Except StyleFault Unit :=
  if parts.length ≠ 3 then .error .unknown
  else if parts.any List.isEmpty then .error .unreadable
  else if parts.any (255 < numberOf ·) then .error .unknown
  else .ok ()

/-- Checks that a word in lower case is a colour: a name, a number or its parts. -/
def checkColour (word : List Char) : Except StyleFault Unit :=
  let name := String.ofList word
  if name = "default" ∨ colourLines.any (fun line => (Text.pieces ' ' line).contains name) then
    .ok ()
  else
    match word, inBrackets? "color".toList word, inBrackets? "rgb".toList word with
    | '#' :: digits, _, _ =>
        if digits.length = 6 ∧ digits.all isHexDigit then .ok () else .error .unknown
    | _, some digits, _ =>
        if 1 ≤ digits.length ∧ digits.length ≤ 3 ∧ digits.all Char.isDigit ∧ numberOf digits ≤ 255 then
          .ok ()
        else .error .unknown
    | _, none, some content =>
        if !content.isEmpty && content.all (fun c => c == ',' || Text.isDecimal c) then
          let (first, others) := Text.split ',' content
          checkParts (first :: others)
        else .error .unknown
    | _, none, none => .error .unknown

/-- A style: its attributes, switched on or off, its colours and its link. -/
structure Style where
  attributes : List (String × Bool)
  colour : Option String
  background : Option String
  link : Option String

namespace Style

def plain : Style :=
  ⟨[], none, none, none⟩

/-- Adds the meaning of words to a style; the last word of a kind counts. -/
def addWords (style : Style) : List (List Char) → Except StyleFault Style
  | [] => .ok style
  | word :: rest =>
      let lowered := Text.lowered word
      let name := String.ofList lowered
      match name, rest with
      | "on", [] => .error .unknown
      | "on", colour :: others => do
          let colour := Text.lowered colour
          checkColour colour
          addWords { style with background := some (String.ofList colour) } others
      | "not", [] => .error .unknown
      | "not", feature :: others =>
          match attribute? (String.ofList feature) with
          | some feature =>
              addWords { style with attributes := (feature, false) :: style.attributes } others
          | none => .error .unknown
      | "link", [] => .error .unknown
      | "link", link :: others =>
          addWords { style with link := some (String.ofList link) } others
      | _, others =>
          match attribute? name with
          | some feature =>
              addWords { style with attributes := (feature, true) :: style.attributes } others
          | none => do
              checkColour lowered
              addWords { style with colour := some name } others

/-- The words of a style in their fixed order. -/
def normalWords (style : Style) : List String :=
  let chosen := Terminal.attributes.filterMap fun (name, _) =>
    (style.attributes.lookup name).map fun switchedOn => if switchedOn then name else "not " ++ name
  chosen ++ style.colour.toList
    ++ (style.background.map ("on " ++ ·)).toList
    ++ (style.link.map ("link " ++ ·)).toList

/-- The normal form of a style. -/
def normalText (style : Style) : String :=
  let words := style.normalWords
  if words.isEmpty then "none" else " ".intercalate words

/-- Reads a style; `none` is the plain one. -/
def ofChars (text : List Char) : Except StyleFault Style :=
  if Text.trimmedChars text = "none".toList then .ok plain
  else plain.addWords (Text.wordsOf text)

/-- The normal form of words; it is none if a part of them that should be a number is not. -/
def normalised? (text : List Char) : Option String :=
  match ofChars text with
  | .ok style => some style.normalText
  | .error .unknown => some (String.ofList (Text.lowered (Text.trimmedChars text)))
  | .error .unreadable => none

end Style

end ClassLift.Terminal
