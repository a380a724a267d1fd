import LessonVariants.Text.Blank
import LessonVariants.Text.Case
import LessonVariants.Text.Digit
import LessonVariants.Vocabulary

/-! # Styles

    The words in a style tag name attributes, a colour, a background after `on`, or a link.  Tags
    match by the style that they mean, so each style has one written form (`Style.text`), with its
    attributes in a fixed order and under their long names. -/

namespace LessonVariants

/-- What a style can do to text besides colouring it, in the order in which it is written. -/
inductive StyleAttribute where
  | bold | dim | italic | underline | blink | fastBlink | reverse | conceal | strike
  | doubleUnderline | frame | encircle | overline
  deriving DecidableEq, Repr

instance : Vocabulary StyleAttribute where
  all :=
    [.bold, .dim, .italic, .underline, .blink, .fastBlink, .reverse, .conceal, .strike,
     .doubleUnderline, .frame, .encircle, .overline]
  label
    | .bold            => "bold"
    | .dim             => "dim"
    | .italic          => "italic"
    | .underline       => "underline"
    | .blink           => "blink"
    | .fastBlink       => "blink2"
    | .reverse         => "reverse"
    | .conceal         => "conceal"
    | .strike          => "strike"
    | .doubleUnderline => "underline2"
    | .frame           => "frame"
    | .encircle        => "encircle"
    | .overline        => "overline"

namespace StyleAttribute

/-- The short names of attributes. -/
def shortNames : List (String × StyleAttribute) :=
  [("b", bold), ("d", dim), ("i", italic), ("u", underline), ("r", reverse), ("c", conceal),
   ("s", strike), ("uu", doubleUnderline), ("o", overline)]

/-- The attribute of a long or short name. -/
def ofName? (name : String) : Option StyleAttribute :=
  (Vocabulary.ofLabel? name).or ((shortNames.find? (·.1 == name)).map (·.2))

end StyleAttribute

/-- The names of colours, several to a row. -/
def colourNameRows : List String :=
  [
    "black red green yellow blue magenta cyan white bright_black bright_red bright_green",
    "bright_yellow bright_blue bright_magenta bright_cyan bright_white grey0 gray0 navy_blue",
    "dark_blue blue3 blue1 dark_green deep_sky_blue4 dodger_blue3 dodger_blue2 green4",
    "spring_green4 turquoise4 deep_sky_blue3 dodger_blue1 green3 spring_green3 dark_cyan",
    "light_sea_green deep_sky_blue2 deep_sky_blue1 spring_green2 cyan3 dark_turquoise turquoise2",
    "green1 spring_green1 medium_spring_green cyan2 cyan1 dark_red deep_pink4 purple4 purple3",
    "blue_violet orange4 grey37 gray37 medium_purple4 slate_blue3 royal_blue1 chartreuse4",
    "dark_sea_green4 pale_turquoise4 steel_blue steel_blue3 cornflower_blue chartreuse3",
    "cadet_blue sky_blue3 steel_blue1 pale_green3 sea_green3 aquamarine3 medium_turquoise",
    "chartreuse2 sea_green2 sea_green1 aquamarine1 dark_slate_gray2 dark_magenta dark_violet",
    "purple light_pink4 plum4 medium_purple3 slate_blue1 yellow4 wheat4 grey53 gray53",
    "light_slate_grey light_slate_gray medium_purple light_slate_blue dark_olive_green3",
    "dark_sea_green light_sky_blue3 sky_blue2 dark_sea_green3 dark_slate_gray3 sky_blue1",
    "chartreuse1 light_green pale_green1 dark_slate_gray1 red3 medium_violet_red magenta3",
    "dark_orange3 indian_red hot_pink3 medium_orchid3 medium_orchid medium_purple2 dark_goldenrod",
    "light_salmon3 rosy_brown grey63 gray63 medium_purple1 gold3 dark_khaki navajo_white3 grey69",
    "gray69 light_steel_blue3 light_steel_blue yellow3 dark_sea_green2 light_cyan3",
    "light_sky_blue1 green_yellow dark_olive_green2 dark_sea_green1 pale_turquoise1 deep_pink3",
    "magenta2 hot_pink2 orchid medium_orchid1 orange3 light_pink3 pink3 plum3 violet",
    "light_goldenrod3 tan misty_rose3 thistle3 plum2 khaki3 light_goldenrod2 light_yellow3 grey84",
    "gray84 light_steel_blue1 yellow2 dark_olive_green1 honeydew2 light_cyan1 red1 deep_pink2",
    "deep_pink1 magenta1 orange_red1 indian_red1 hot_pink dark_orange salmon1 light_coral",
    "pale_violet_red1 orchid2 orchid1 orange1 sandy_brown light_salmon1 light_pink1 pink1 plum1",
    "gold1 navajo_white1 misty_rose1 thistle1 yellow1 light_goldenrod1 khaki1 wheat1 cornsilk1",
    "grey100 gray100 grey3 gray3 grey7 gray7 grey11 gray11 grey15 gray15 grey19 gray19 grey23",
    "gray23 grey27 gray27 grey30 gray30 grey35 gray35 grey39 gray39 grey42 gray42 grey46 gray46",
    "grey50 gray50 grey54 gray54 grey58 gray58 grey62 gray62 grey66 gray66 grey70 gray70 grey74",
    "gray74 grey78 gray78 grey82 gray82 grey85 gray85 grey89 gray89 grey93 gray93"
  ]

/-- Why a style cannot be read: it is none, or a component of a colour has no digits. -/
inductive StyleError where
  | unknown
  | emptyComponent
  deriving DecidableEq, Repr

/-- The number that decimal digits of any script stand for. -/
def digitsValue? (cs : List Char) : Option Nat :=
  if cs.isEmpty then none
  else (cs.mapM digitValue?).map fun ds => ds.foldl (fun n d => 10 * n + d) 0

/-- The text between an opening word with its parenthesis and the closing parenthesis at the end. -/
def argument? (opening word : String) : Option (List Char) :=
  let cs := word.toList
  if opening.toList.isPrefixOf cs && cs.getLast? == some ')' then
    some ((cs.drop opening.length).dropLast)
  else none

/-- Whether a text is the number of a colour. -/
def checkColourNumber (digits : List Char) : Except StyleError Unit :=
  if digits.length ≤ 3 ∧ digits.all Char.isDigit ∧ (digitsValue? digits).any (· ≤ 255) then .ok ()
  else .error .unknown

/-- Whether the components of a colour, written in decimal with commas between them, make up a
    colour. -/
def checkComponents (inside : List Char) : Except StyleError Unit :=
  if inside.isEmpty || !inside.all fun c => isDecimalDigit c || c == ',' then .error .unknown
  else
    match (String.ofList inside).splitOn "," with
    | [r, g, b] =>
        match [r, g, b].mapM fun s => digitsValue? s.toList with
        | some ns => if ns.all (· ≤ 255) then .ok () else .error .unknown
        | none    => .error .emptyComponent
    | _ => .error .unknown

/-- Whether a word in lower case is a colour: a name, a hexadecimal triplet, a number, or decimal
    components. -/
def checkColour (word : String) : Except StyleError Unit :=
  let isHex := fun c : Char => c.isDigit || ('a' ≤ c && c ≤ 'f')
  if word = "default" ∨ colourNameRows.any fun row => (row.splitOn " ").contains word then .ok ()
  else if word.startsWith "#" ∧ word.length = 7 ∧ (word.toList.drop 1).all isHex then .ok ()
  else
    match argument? "color(" word, argument? "rgb(" word with
    | some digits, _           => checkColourNumber digits
    | none,        some inside => checkComponents inside
    | none,        none        => .error .unknown

/-- A style: attributes that it sets or clears, colours and a link. -/
structure Style where
  attributes : List (StyleAttribute × Bool) := []
  colour     : Option String                := none
  background : Option String                := none
  link       : Option String                := none

namespace Style

/-- Sets or clears an attribute; what was said of it before no longer counts. -/
def put (s : Style) (a : StyleAttribute) (isSet : Bool) : Style :=
  { s with attributes := (a, isSet) :: s.attributes.filter (·.1 != a) }

/-- Adds what the words of a style say.  The number bounds the words. -/
def read : Nat → Style → List String → Except StyleError Style
  | 0,     s, _            => .ok s
  | _ + 1, s, []           => .ok s
  | n + 1, s, word :: rest =>
      let lower := lowerText word
      if lower = "on" then
        match rest with
        | []             => .error .unknown
        | colour :: rest => do
            checkColour (lowerText colour)
            read n { s with background := some (lowerText colour) } rest
      else if lower = "not" then
        match rest.head?.bind StyleAttribute.ofName? with
        | some a => read n (s.put a false) (rest.drop 1)
        | none   => .error .unknown
      else if lower = "link" then
        match rest with
        | []             => .error .unknown
        | target :: rest => read n { s with link := some target } rest
      else
        match StyleAttribute.ofName? lower with
        | some a => read n (s.put a true) rest
        | none   => do
            checkColour lower
            read n { s with colour := some lower } rest

/-- The written form of an attribute, if the style says anything of it. -/
def attributeText? (s : Style) (a : StyleAttribute) : Option String :=
  (s.attributes.find? (·.1 == a)).map fun e =>
    if e.2 then Vocabulary.label a else "not " ++ Vocabulary.label a

/-- The written form of a style. -/
def text (s : Style) : String :=
  let words := Vocabulary.all.filterMap s.attributeText? ++ s.colour.toList ++
    (s.background.map ("on " ++ ·)).toList ++ (s.link.map ("link " ++ ·)).toList
  if words.isEmpty then "none" else " ".intercalate words

end Style

/-- The words of a text, without the blanks between them. -/
def blankSeparated (cs : List Char) : List String :=
  ((cs.splitBy fun a b => isBlank a == isBlank b).filter fun w => !w.any isBlank).map String.ofList

/-- The written form of the style that a tag's name means; a name that is no style stands for itself,
    in lower case. -/
def normalStyle (name : List Char) : Except StyleError String :=
  let trimmed := String.ofList (trimEnds isBlank name)
  let words := blankSeparated name
  if trimmed = "none" then .ok "none"
  else
    match Style.read (words.length + 1) {} words with
    | .ok s                  => .ok s.text
    | .error .emptyComponent => .error .emptyComponent
    | .error .unknown        => .ok (lowerText trimmed)

end LessonVariants
