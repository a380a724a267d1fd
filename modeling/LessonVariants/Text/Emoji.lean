import LessonVariants.Text.Blank
import LessonVariants.Text.Case
import LessonVariants.Text.Digit
import LessonVariants.Text.EmojiNames

/-! # Emoji by name

    An emoji may be written as its name between colons, in any case of letters.  After a hyphen the
    word `text` or `emoji` may ask for a variant.  Names without an emoji stay as they are. -/

namespace LessonVariants

/-- The character whose code point is given in hexadecimal. -/
def ofHex (digits : String) : Char :=
  Char.ofNat ((digits.toList.filterMap hexDigit?).foldl (fun n d => 16 * n + d) 0)

/-- The characters of a name in a row of names. -/
def inRow? (name row : String) : Option (List Char) :=
  (row.splitOn " ").findSome? fun entry =>
    match entry.splitOn "=" with
    | [key, points] => if key = name then some ((points.splitOn ",").map ofHex) else none
    | _             => none

/-- The endings that ask for a skin tone, and the tones. -/
def skinTones : List (String × Nat) :=
  [("_light_skin_tone", 0x1F3FB), ("_medium-light_skin_tone", 0x1F3FC),
   ("_medium_skin_tone", 0x1F3FD), ("_medium-dark_skin_tone", 0x1F3FE),
   ("_dark_skin_tone", 0x1F3FF)]

/-- The mark that asks for the colourful form of a character. -/
def colourMark : Char := '\uFE0F'

/-- The mark that asks for the plain form of a character. -/
def plainMark : Char := '\uFE0E'

/-- An emoji in a skin tone: the tone stands behind the first character, in the place of its mark. -/
def withTone (tone : Char) : List Char → List Char
  | []      => [tone]
  | c :: cs => c :: tone :: (if cs.head? = some colourMark then cs.drop 1 else cs)

/-- The emoji of a name in lower case. -/
def emoji? (name : String) : Option (List Char) :=
  (emojiRows.findSome? (inRow? name)).or <| (tonedEmojiRows.findSome? (inRow? name)).or <|
    skinTones.findSome? fun tone =>
      if name.endsWith tone.1 then
        let base := String.ofList (name.toList.take (name.length - tone.1.length))
        (tonedEmojiRows.findSome? (inRow? base)).map (withTone (Char.ofNat tone.2))
      else none

/-- A name without the ending that asks for a variant, and the mark of the variant. -/
def splitVariant (name : List Char) : List Char × List Char :=
  let s := String.ofList name
  if s.endsWith "-text" then (name.take (name.length - 5), [plainMark])
  else if s.endsWith "-emoji" then (name.take (name.length - 6), [colourMark])
  else (name, [])

/-- What a name between colons is shown as. -/
def shownName (name : List Char) : List Char :=
  let (base, mark) := splitVariant name
  match emoji? (lowerText (String.ofList base)) with
  | some cs => cs ++ mark
  | none    => ':' :: name ++ [':']

/-- A name at the front, between a colon that has just been read and the next one, and the text after
    it. -/
def nameToColon? (cs : List Char) : Option (List Char × List Char) :=
  let inName := fun c => c != ':' && !isBlank c
  match cs.dropWhile inName with
  | ':' :: after => some (cs.takeWhile inName, after)
  | _            => none

/-- A text with its emoji in place of their names.  The number bounds the characters. -/
def replaceEmojiWithin : Nat → List Char → List Char
  | 0,     cs      => cs
  | _ + 1, []      => []
  | n + 1, c :: cs =>
      match if c = ':' then nameToColon? cs else none with
      | some (name, after) => shownName name ++ replaceEmojiWithin n after
      | none               => c :: replaceEmojiWithin n cs

/-- A text with its emoji in place of their names. -/
def replaceEmoji (cs : List Char) : List Char :=
  replaceEmojiWithin cs.length cs

end LessonVariants
