import Conform.Text.Case
import Conform.Text.CodePoint

/-! # Styles

A style is written as words: attributes, which `not` takes back, a colour, a colour behind `on` for
the background, and an address behind `link`. Styles with the same effect have the same name, which
lists the attributes in a fixed order, the colour, the background and the address.
-/

namespace Conform

/-- A style. -/
structure Style where
  /-- The attributes that are set or taken back. -/
  attributes : List (String × Bool)
  /-- The colour. -/
  colour : Option String
  /-- The colour of the background. -/
  background : Option String
  /-- The address. -/
  link : Option String
  deriving DecidableEq, Repr

namespace Style

/-- The style without effect. -/
def plain : Style := ⟨[], none, none, none⟩

/-- The attributes, in the order in which a name lists them. -/
def attributeNames : List String :=
  ["bold", "dim", "italic", "underline", "blink", "blink2", "reverse", "conceal", "strike",
    "underline2", "frame", "encircle", "overline"]

/-- The short names of attributes. -/
def shortNames : List (String × String) :=
  [("b", "bold"), ("d", "dim"), ("i", "italic"), ("u", "underline"), ("r", "reverse"),
    ("c", "conceal"), ("s", "strike"), ("uu", "underline2"), ("o", "overline")]

/-- The attribute that a word names. -/
def attribute? (word : String) : Option String :=
  if attributeNames.contains word then some word else shortNames.lookup word

/-- The names of colours, row by row. -/
def colourRows : List String := [
  "black red green yellow blue magenta cyan white bright_black bright_red bright_green",
  "bright_yellow bright_blue bright_magenta bright_cyan bright_white grey0 gray0 navy_blue",
  "dark_blue blue3 blue1 dark_green deep_sky_blue4 dodger_blue3 dodger_blue2 green4",
  "spring_green4 turquoise4 deep_sky_blue3 dodger_blue1 green3 spring_green3 dark_cyan",
  "light_sea_green deep_sky_blue2 deep_sky_blue1 spring_green2 cyan3 dark_turquoise turquoise2",
  "green1 spring_green1 medium_spring_green cyan2 cyan1 dark_red deep_pink4 purple4 purple3",
  "blue_violet orange4 grey37 gray37 medium_purple4 slate_blue3 royal_blue1 chartreuse4",
  "dark_sea_green4 pale_turquoise4 steel_blue steel_blue3 cornflower_blue chartreuse3",
  "cadet_blue sky_blue3 steel_blue1 pale_green3 sea_green3 aquamarine3 medium_turquoise",
  "chartreuse2 sea_green2 sea_green1 aquamarine1 dark_slate_gray2 dark_magenta dark_violet",
  "purple light_pink4 plum4 medium_purple3 slate_blue1 yellow4 wheat4 grey53 gray53",
  "light_slate_grey light_slate_gray medium_purple light_slate_blue dark_olive_green3",
  "dark_sea_green light_sky_blue3 sky_blue2 dark_sea_green3 dark_slate_gray3 sky_blue1",
  "chartreuse1 light_green pale_green1 dark_slate_gray1 red3 medium_violet_red magenta3",
  "dark_orange3 indian_red hot_pink3 medium_orchid3 medium_orchid medium_purple2 dark_goldenrod",
  "light_salmon3 rosy_brown grey63 gray63 medium_purple1 gold3 dark_khaki navajo_white3 grey69",
  "gray69 light_steel_blue3 light_steel_blue yellow3 dark_sea_green2 light_cyan3",
  "light_sky_blue1 green_yellow dark_olive_green2 dark_sea_green1 pale_turquoise1 deep_pink3",
  "magenta2 hot_pink2 orchid medium_orchid1 orange3 light_pink3 pink3 plum3 violet",
  "light_goldenrod3 tan misty_rose3 thistle3 plum2 khaki3 light_goldenrod2 light_yellow3 grey84",
  "gray84 light_steel_blue1 yellow2 dark_olive_green1 honeydew2 light_cyan1 red1 deep_pink2",
  "deep_pink1 magenta1 orange_red1 indian_red1 hot_pink dark_orange salmon1 light_coral",
  "pale_violet_red1 orchid2 orchid1 orange1 sandy_brown light_salmon1 light_pink1 pink1 plum1",
  "gold1 navajo_white1 misty_rose1 thistle1 yellow1 light_goldenrod1 khaki1 wheat1 cornsilk1",
  "grey100 gray100 grey3 gray3 grey7 gray7 grey11 gray11 grey15 gray15 grey19 gray19 grey23",
  "gray23 grey27 gray27 grey30 gray30 grey35 gray35 grey39 gray39 grey42 gray42 grey46 gray46",
  "grey50 gray50 grey54 gray54 grey58 gray58 grey62 gray62 grey66 gray66 grey70 gray70 grey74",
  "gray74 grey78 gray78 grey82 gray82 grey85 gray85 grey89 gray89 grey93 gray93"
]

/-- The names of colours. -/
def colourNames : List String :=
  "default" :: colourRows.flatMap fun row => (Text.splitOn ' ' row.toList).map String.ofList

/-- Whether characters are a hexadecimal colour behind a hash. -/
def isHexColour : List Char → Bool
  | '#' :: digits =>
    digits.length = 6 && digits.all fun c => c.isDigit || ('a' ≤ c && c ≤ 'f')
  | _ => false

/-- The characters between a word with a bracket and the closing bracket. -/
def inBrackets? (word : String) (cs : List Char) : Option (List Char) :=
  let opening := word.toList ++ ['(']
  if opening.isPrefixOf cs && cs.getLast? = some ')' then
    some ((cs.drop opening.length).dropLast)
  else none

/-- Whether characters are a number that a colour may have. -/
def isLevel (cs : List Char) : Bool :=
  !cs.isEmpty && cs.all Char.isDigit && ((String.ofList cs).toNat?.getD 256).ble 255

/-- Whether a word is a colour. -/
def isColour (word : String) : Bool :=
  let cs := word.toList
  colourNames.contains word || isHexColour cs ||
    (match inBrackets? "color" cs with
      | some level => level.length ≤ 3 && isLevel level
      | none => false) ||
    (match inBrackets? "rgb" cs with
      | some levels =>
        let levels := Text.splitOn ',' levels
        levels.length = 3 && levels.all isLevel
      | none => false)

/-- Sets or takes back an attribute. -/
def setAttribute (name : String) (value : Bool) (style : Style) : Style :=
  { style with attributes := (name, value) :: style.attributes }

/-- Adds what words say to a style. -/
def ofWords (style : Style) : List String → Option Style
  | [] => some style
  | word :: rest =>
    let lowered := Text.lower word
    if lowered = "on" then
      match rest with
      | [] => none
      | colour :: rest =>
        let colour := Text.lower colour
        if isColour colour then ofWords { style with background := some colour } rest else none
    else if lowered = "not" then
      match rest with
      | [] => none
      | named :: rest =>
        match attribute? named with
        | some name => ofWords (style.setAttribute name false) rest
        | none => none
    else if lowered = "link" then
      match rest with
      | [] => none
      | address :: rest => ofWords { style with link := some address } rest
    else
      match attribute? lowered with
      | some name => ofWords (style.setAttribute name true) rest
      | none =>
        if isColour lowered then ofWords { style with colour := some lowered } rest else none

/-- The words of the name of a style. -/
def words (style : Style) : List String :=
  let attributes := attributeNames.filterMap fun name =>
    (style.attributes.lookup name).map fun value => if value then name else "not " ++ name
  let colour := style.colour.toList
  let background := style.background.toList.flatMap fun colour => ["on", colour]
  let link := style.link.toList.flatMap fun address => ["link", address]
  attributes ++ colour ++ background ++ link

/-- The name of a style. -/
def name (style : Style) : String :=
  if style.words.isEmpty then "none" else " ".intercalate style.words

/-- The words of a text, between white space. -/
def wordsOf (cs : List Char) : List String :=
  ((cs.splitBy fun c d => Text.isBlank c.toNat == Text.isBlank d.toNat).filter fun run =>
    run.all fun c => !Text.isBlank c.toNat).map String.ofList

/-- The name that a text gives a style: that of the style which it writes, or the text itself in
lower case without white space around it. -/
def nameOf (cs : List Char) : String :=
  if Text.strip (String.ofList cs) = "none" then "none"
  else
    match ofWords plain (wordsOf cs) with
    | some style => style.name
    | none => Text.lower (Text.strip (String.ofList cs))

end Style

end Conform
