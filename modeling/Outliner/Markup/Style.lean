import Outliner.Text.LowerCase
import Outliner.Text.Numeral

namespace Outliner.Markup

inductive Fault where
  | unmatched
  | badArguments
  | badNumber
deriving DecidableEq, Repr

def attributes : List Text :=
  ["bold", "dim", "italic", "underline", "blink", "blink2", "reverse", "conceal", "strike",
    "underline2", "frame", "encircle", "overline"].map String.toList

def shortNames : List (Text × Text) :=
  [("b", "bold"), ("d", "dim"), ("i", "italic"), ("u", "underline"), ("r", "reverse"),
    ("c", "conceal"), ("s", "strike"), ("uu", "underline2"), ("o", "overline")].map
    fun (short, long) => (short.toList, long.toList)

def attribute? (word : Text) : Option Text :=
  if attributes.contains word then some word else shortNames.lookup word

/-- The names of colours without the shades of grey that are numbered. -/
def colours : List Text :=
  ["default", "black", "red", "green", "yellow", "blue", "magenta", "cyan", "white",
    "bright_black", "bright_red", "bright_green", "bright_yellow", "bright_blue",
    "bright_magenta", "bright_cyan", "bright_white", "navy_blue", "dark_blue", "blue3", "blue1",
    "dark_green", "deep_sky_blue4", "dodger_blue3", "dodger_blue2", "green4", "spring_green4",
    "turquoise4", "deep_sky_blue3", "dodger_blue1", "green3", "spring_green3", "dark_cyan",
    "light_sea_green", "deep_sky_blue2", "deep_sky_blue1", "spring_green2", "cyan3",
    "dark_turquoise", "turquoise2", "green1", "spring_green1", "medium_spring_green", "cyan2",
    "cyan1", "dark_red", "deep_pink4", "purple4", "purple3", "blue_violet", "orange4",
    "medium_purple4", "slate_blue3", "royal_blue1", "chartreuse4", "dark_sea_green4",
    "pale_turquoise4", "steel_blue", "steel_blue3", "cornflower_blue", "chartreuse3",
    "cadet_blue", "sky_blue3", "steel_blue1", "pale_green3", "sea_green3", "aquamarine3",
    "medium_turquoise", "chartreuse2", "sea_green2", "sea_green1", "aquamarine1",
    "dark_slate_gray2", "dark_magenta", "dark_violet", "purple", "light_pink4", "plum4",
    "medium_purple3", "slate_blue1", "yellow4", "wheat4", "light_slate_grey",
    "light_slate_gray", "medium_purple", "light_slate_blue", "dark_olive_green3",
    "dark_sea_green", "light_sky_blue3", "sky_blue2", "dark_sea_green3", "dark_slate_gray3",
    "sky_blue1", "chartreuse1", "light_green", "pale_green1", "dark_slate_gray1", "red3",
    "medium_violet_red", "magenta3", "dark_orange3", "indian_red", "hot_pink3",
    "medium_orchid3", "medium_orchid", "medium_purple2", "dark_goldenrod", "light_salmon3",
    "rosy_brown", "medium_purple1", "gold3", "dark_khaki", "navajo_white3",
    "light_steel_blue3", "light_steel_blue", "yellow3", "dark_sea_green2", "light_cyan3",
    "light_sky_blue1", "green_yellow", "dark_olive_green2", "dark_sea_green1",
    "pale_turquoise1", "deep_pink3", "magenta2", "hot_pink2", "orchid", "medium_orchid1",
    "orange3", "light_pink3", "pink3", "plum3", "violet", "light_goldenrod3", "tan",
    "misty_rose3", "thistle3", "plum2", "khaki3", "light_goldenrod2", "light_yellow3",
    "light_steel_blue1", "yellow2", "dark_olive_green1", "honeydew2", "light_cyan1", "red1",
    "deep_pink2", "deep_pink1", "magenta1", "orange_red1", "indian_red1", "hot_pink",
    "dark_orange", "salmon1", "light_coral", "pale_violet_red1", "orchid2", "orchid1",
    "orange1", "sandy_brown", "light_salmon1", "light_pink1", "pink1", "plum1", "gold1",
    "navajo_white1", "misty_rose1", "thistle1", "yellow1", "light_goldenrod1", "khaki1",
    "wheat1", "cornsilk1"].map String.toList

def greys : List Nat :=
  [0, 3, 7, 11, 15, 19, 23, 27, 30, 35, 37, 39, 42, 46, 50, 53, 54, 58, 62, 63, 66, 69, 70, 74, 78,
    82, 84, 85, 89, 93, 100]

def argument? (word text : Text) : Option Text :=
  (Text.after? (word ++ ['(']) text).bind fun rest =>
    if rest.getLast? == some ')' then some rest.dropLast else none

def componentValue (digits : Text) : Except Fault Nat :=
  if digits.isEmpty || Text.digitLimit < digits.length then .error .badNumber
  else .ok (digits.foldl (fun n c => 10 * n + (Text.decimalValue? c).getD 0) 0)

def isMix (word : Text) : Except Fault Bool :=
  match argument? "rgb".toList word with
  | none => .ok false
  | some mix =>
    if mix.isEmpty || mix.any fun c => c != ',' && (Text.decimalValue? c).isNone then .ok false
    else
      let parts := Text.cutAt ',' mix
      if parts.length == 3 then (parts.mapM componentValue).map (·.all (· ≤ 255)) else .ok false

def isColour (word : Text) : Except Fault Bool :=
  let isNumber := fun (digits : Text) =>
    !digits.isEmpty && digits.length ≤ 3 && digits.all Text.isAsciiDigit &&
      Text.digitsValue digits ≤ 255
  if colours.contains word ||
      greys.any (fun n =>
        word == "grey".toList ++ Text.ofNat n || word == "gray".toList ++ Text.ofNat n) ||
      (word.head? == some '#' && word.length == 7 &&
        (word.drop 1).all fun c => (Text.hexValue? c).isSome) ||
      (argument? "color".toList word).any isNumber then .ok true
  else isMix word

structure Style where
  attributes : List (Text × Bool) := []
  colour : Option Text := none
  background : Option Text := none
  link : Option Text := none
deriving DecidableEq, Repr

namespace Style

def ofWords (style : Style) : List Text → Except Fault (Option Style)
  | [] => .ok (some style)
  | given :: rest =>
    let word := Text.lower given
    if word == "on".toList then
      match rest with
      | [] => .ok none
      | next :: later => do
        if ← isColour (Text.lower next) then
          ofWords { style with background := some (Text.lower next) } later
        else return none
    else if word == "not".toList then
      match rest with
      | [] => .ok none
      | next :: later =>
        match attribute? next with
        | some name => ofWords { style with attributes := (name, false) :: style.attributes } later
        | none => .ok none
    else if word == "link".toList then
      match rest with
      | [] => .ok none
      | next :: later => ofWords { style with link := some next } later
    else match attribute? word with
      | some name => ofWords { style with attributes := (name, true) :: style.attributes } rest
      | none => do
        if ← isColour word then ofWords { style with colour := some word } rest else return none

def words (style : Style) : List Text :=
  Markup.attributes.flatMap (fun name =>
    match style.attributes.lookup name with
    | none => []
    | some true => [name]
    | some false => ["not".toList, name]) ++
    style.colour.toList ++
    (style.background.map fun colour => ["on".toList, colour]).getD [] ++
    (style.link.map fun link => ["link".toList, link]).getD []

end Style

/-- The normal form of the name of a style. A name of another kind is put in lower case. -/
def normalStyle (name : Text) : Except Fault Text := do
  if Text.strip name == "none".toList then return "none".toList
  match ← Style.ofWords {} (Text.words name) with
  | none => return Text.lower (Text.strip name)
  | some style =>
    match style.words with
    | [] => return "none".toList
    | words => return Text.join [' '] words

end Outliner.Markup
