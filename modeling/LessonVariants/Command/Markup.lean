import LessonVariants.Command.Parameter
import LessonVariants.Command.Style
import LessonVariants.Text.Emoji

/-! # Console markup

    Text for the console may hold style tags in square brackets, which are not shown: an opening
    tag `[name]` or `[name=parameters]`, and a closing tag `[/name]` or `[/]`.  A backslash before a
    tag keeps it, and one before any other opening bracket is dropped.  A closing tag closes the
    latest open tag of the same style; one without an opening tag is an error.  Emoji may be given by
    name, and control characters that would move the cursor are left out. -/

namespace LessonVariants

/-- Why marked-up text cannot be shown. -/
inductive MarkupError where
  | unmatchedTag
  | unsoundParameters
  | emptyComponent
  deriving DecidableEq, Repr

namespace Markup

/-- Whether a character starts a tag after its bracket. -/
def startsTag (c : Char) : Bool :=
  ('a' ≤ c && c ≤ 'z') || c == '#' || c == '/' || c == '@'

/-- The inside of a tag and the text after it, if a tag stands at the front. -/
def tag? : List Char → Option (List Char × List Char)
  | '[' :: c :: rest =>
      if startsTag c then
        let inside := rest.takeWhile fun d => d != '[' && d != ']'
        match rest.dropWhile fun d => d != '[' && d != ']' with
        | ']' :: after => some (c :: inside, after)
        | _            => none
      else none
  | _ => none

/-- A part of marked-up text: characters to be shown, or a tag with its name and its parameters. -/
inductive Piece where
  | text (cs : List Char)
  | tag  (name : List Char) (parameters : List Char)

/-- The parts of marked-up text, given the characters before it that belong to its first part,
    backwards.  The number bounds the characters left. -/
def pieces : Nat → List Char → List Char → List Piece
  | 0,     before, cs        => [.text (before.reverse ++ cs)]
  | _ + 1, before, []        => [.text before.reverse]
  | n + 1, before, c :: rest =>
      let slashes := ((c :: rest).takeWhile (· == '\\')).length
      match tag? ((c :: rest).drop slashes) with
      | none => pieces n (c :: before) rest
      | some (inside, after) =>
          .text before.reverse :: .text (List.replicate (slashes / 2) '\\') ::
            (if slashes % 2 = 1 then .text ('[' :: inside ++ [']'])
              else .tag (inside.takeWhile (· != '=')) ((inside.dropWhile (· != '=')).drop 1)) ::
            pieces n [] after

/-- The text without the backslashes before opening brackets. -/
def withoutBracketEscapes : List Char → List Char
  | '\\' :: '[' :: rest => '[' :: withoutBracketEscapes rest
  | c :: rest            => c :: withoutBracketEscapes rest
  | []                   => []

/-- Whether a character is left out: the bell, the backspace, and what moves the cursor to another
    place in the line or page. -/
def isLeftOut (c : Char) : Bool :=
  inRanges [(0x07, 0x08), (0x0B, 0x0D)] c.toNat

/-- The characters that a part without tags shows. -/
def shownText (cs : List Char) : List Char :=
  (replaceEmoji (withoutBracketEscapes cs)).filter fun c => !isLeftOut c

/-- An open tag: the style that it means, and its parameters. -/
structure OpenTag where
  style      : String
  parameters : List Char

/-- The tag that a closing tag closes, and the tags that stay open. -/
def close? (matching : OpenTag → Bool) : List OpenTag → Option (OpenTag × List OpenTag)
  | []      => none
  | t :: ts => if matching t then some (t, ts) else (close? matching ts).map fun r => (r.1, t :: r.2)

/-- The style that a tag's name means. -/
def styleOf (name : List Char) : Except MarkupError String :=
  (normalStyle name).mapError fun _ => .emptyComponent

/-- The open tags after a tag. -/
def afterTag (tags : List OpenTag) (name parameters : List Char) :
    Except MarkupError (List OpenTag) := do
  match name with
  | '/' :: closed =>
      let style ← styleOf closed
      let matching := fun t : OpenTag => (trimEnds isBlank closed).isEmpty || t.style == style
      match close? matching tags with
      | none           => .error .unmatchedTag
      | some (t, rest) =>
          if t.style.startsWith "@" ∧ !t.parameters.isEmpty ∧ !Parameter.isSound t.parameters then
            .error .unsoundParameters
          else .ok rest
  | _ => return ⟨← styleOf name, parameters⟩ :: tags

/-- The characters that parts show, given the open tags. -/
def shownPieces : List OpenTag → List Piece → Except MarkupError (List Char)
  | _,    []                         => .ok []
  | tags, .text cs :: rest           => (shownPieces tags rest).map (shownText cs ++ ·)
  | tags, .tag name parameters :: rest => do
      shownPieces (← afterTag tags name parameters) rest

/-- The characters that marked-up text shows. -/
def shown (s : String) : Except MarkupError (List Char) :=
  shownPieces [] (pieces (s.length + 1) [] s.toList)

end Markup

end LessonVariants
