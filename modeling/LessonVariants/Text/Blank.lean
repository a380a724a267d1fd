/-! # Blank characters

    Blank characters separate the words of a guard: they are the white space of Unicode together
    with the four information separators U+001C to U+001F.  Numeric text is trimmed of white space
    proper. -/

namespace LessonVariants

/-- Whether a code point lies in one of the closed ranges. -/
def inRanges (ranges : List (Nat × Nat)) (n : Nat) : Bool :=
  ranges.any fun r => r.1 ≤ n && n ≤ r.2

/-- The closed ranges of white space, in ascending order. -/
def whiteSpaceRanges : List (Nat × Nat) :=
  [(0x09, 0x0D), (0x20, 0x20), (0x85, 0x85), (0xA0, 0xA0), (0x1680, 0x1680), (0x2000, 0x200A),
   (0x2028, 0x2029), (0x202F, 0x202F), (0x205F, 0x205F), (0x3000, 0x3000)]

/-- Whether a character is white space. -/
def isWhiteSpace (c : Char) : Bool :=
  inRanges whiteSpaceRanges c.toNat

/-- Whether a character is blank: white space or an information separator. -/
def isBlank (c : Char) : Bool :=
  inRanges whiteSpaceRanges c.toNat || inRanges [(0x1C, 0x1F)] c.toNat

/-- Whether a text holds nothing but blanks. -/
def isBlankText (s : String) : Bool :=
  s.toList.all isBlank

/-- The characters without those at either end that satisfy a test. -/
def trimEnds (p : Char → Bool) (cs : List Char) : List Char :=
  ((cs.dropWhile p).reverse.dropWhile p).reverse

end LessonVariants
