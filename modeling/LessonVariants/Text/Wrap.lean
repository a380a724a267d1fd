import LessonVariants.Text.Blank
import LessonVariants.Text.CellWidth

/-! # Wrapping

    A text is laid out in lines of a given width in cells: it is broken at its line feeds, tabs are
    filled up to the next multiple of eight cells, and a word that does not fit into the rest of its
    line starts a new one.  A word wider than a line is folded where that is asked for. -/

namespace LessonVariants

/-- The parts of a text between the characters that satisfy a test. -/
def splitAtChars (p : Char → Bool) : List Char → List (List Char)
  | []      => [[]]
  | c :: cs =>
      if p c then [] :: splitAtChars p cs
      else
        match splitAtChars p cs with
        | part :: parts => (c :: part) :: parts
        | []            => [[c]]

/-- Whether a character ends a line where the width of a text is measured. -/
def isLineBreak (c : Char) : Bool :=
  inRanges [(0x0A, 0x0D), (0x1C, 0x1E), (0x85, 0x85), (0x2028, 0x2029)] c.toNat

/-- The width of the widest line of a text. -/
def measuredWidth (cs : List Char) : Nat :=
  ((splitAtChars isLineBreak cs).map cellLength).foldl max 0

/-- A line from a cell on, with its tabs filled up. -/
def expandTabs (cell : Nat) : List Char → List Char
  | []      => []
  | c :: cs =>
      if c = '\t' then List.replicate (8 - cell % 8) ' ' ++ expandTabs (cell + (8 - cell % 8)) cs
      else c :: expandTabs (cell + cellWidth c) cs

/-- The words of a line, each with the place where it starts and the blanks around it.  The number
    bounds the words. -/
def wordsAt : Nat → Nat → List Char → List (Nat × List Char)
  | 0,     _,     _  => []
  | n + 1, start, cs =>
      let lead := cs.takeWhile isBlank
      let body := (cs.drop lead.length).takeWhile fun c => !isBlank c
      let tail := (cs.drop (lead.length + body.length)).takeWhile isBlank
      let word := lead ++ body ++ tail
      if body.isEmpty then []
      else (start, word) :: wordsAt n (start + word.length) (cs.drop word.length)

/-- A word cut into pieces of at most a given width; the last piece comes first, and each piece
    backwards. -/
def foldedBackwards (width : Nat) (word : List Char) : List (List Char) :=
  word.foldl (fun pieces c =>
    match pieces with
    | piece :: rest =>
        if width < cellLength piece + cellWidth c then [c] :: piece :: rest
        else (c :: piece) :: rest
    | [] => [[c]]) [[]]

/-- Where a line is broken so far, the last place first, and how many cells of the current line are
    taken. -/
structure Breaks where
  places : List Nat := []
  taken  : Nat      := 0

namespace Breaks

/-- Breaks the line at a place, unless that is its start. -/
def insert (b : Breaks) (place : Nat) : Breaks :=
  if place = 0 then b else { b with places := place :: b.places }

/-- Breaks the line before each piece of a folded word. -/
def insertPieces (b : Breaks) (start : Nat) : List (List Char) → Breaks
  | []              => b
  | [piece]         => { b.insert start with taken := cellLength piece }
  | piece :: pieces => insertPieces (b.insert start) (start + piece.length) pieces

/-- Lays out a word that starts at a place. -/
def add (fold : Bool) (width : Nat) (b : Breaks) (start : Nat) (word : List Char) : Breaks :=
  let needed := cellLength (word.reverse.dropWhile isBlank)
  if needed + b.taken ≤ width then { b with taken := b.taken + cellLength word }
  else if width < needed && fold then b.insertPieces start (foldedBackwards width word).reverse
  else { b.insert start with taken := cellLength word }

end Breaks

/-- Cuts a text at ascending places, counted from a start before it. -/
def cutAt (start : Nat) : List Nat → List Char → List (List Char)
  | [],      cs => [cs]
  | p :: ps, cs => cs.take (p - start) :: cutAt p ps (cs.drop (p - start))

/-- A line without line feeds, broken to a width. -/
def wrapLine (fold : Bool) (width : Nat) (line : List Char) : List (List Char) :=
  let line := expandTabs 0 line
  let breaks := (wordsAt line.length 0 line).foldl (fun b e => b.add fold width e.1 e.2) ({} : Breaks)
  cutAt 0 breaks.places.reverse line

/-- A line without the blanks at its end by which it has more characters than a width. -/
def withoutExcessBlanks (width : Nat) (line : List Char) : List Char :=
  let blanks := (line.reverse.takeWhile isBlank).length
  line.take (line.length - min blanks (line.length - width))

/-- A beginning of a line that takes a given number of cells, found by bisection; a wide character
    that stands on the border becomes a blank.  The first number bounds the steps. -/
def cropBetween (width : Nat) (line : List Char) : Nat → Nat → Nat → List Char
  | 0,     low, _    => line.take low
  | n + 1, low, high =>
      let middle := (low + high) / 2
      let head := line.take (middle + 1)
      if cellLength head = width + 1 ∧ (head.getLast?.map cellWidth) = some 2 then
        head.dropLast ++ [' ']
      else if cellLength head = width then head
      else if width < cellLength head then cropBetween width line n low middle
      else cropBetween width line n middle high

/-- A line that takes no more than a given number of cells; one that is too long ends in an
    ellipsis. -/
def cropped (width : Nat) (line : List Char) : List Char :=
  if cellLength line ≤ width then line
  else cropBetween (width - 1) line line.length 0 line.length ++ ['…']

/-- The lines of a text in a width. -/
def wrap (fold : Bool) (width : Nat) (cs : List Char) : List (List Char) :=
  (splitAtChars (· == '\n') cs).flatMap (wrapLine fold width)

/-- The lines of a text where the width does not matter. -/
def unwrapped (cs : List Char) : List (List Char) :=
  (splitAtChars (· == '\n') cs).map (expandTabs 0)

end LessonVariants
