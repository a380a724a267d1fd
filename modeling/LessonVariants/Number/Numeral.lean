import LessonVariants.Number.Basic
import LessonVariants.Text.Blank

/-! # Numeric text

    Text that stands for a number is trimmed of white space and may carry a sign and underscores
    between its digits.  Only the digits of ASCII count here. -/

namespace LessonVariants

/-- The value of a digit of ASCII. -/
def asciiDigit? (c : Char) : Option Nat :=
  if c.isDigit then some (c.toNat - 48) else none

/-- The leading characters that have a value, as values, and the remaining text. -/
def spanDigits (value? : Char → Option Nat) : List Char → List Nat × List Char
  | []      => ([], [])
  | c :: cs =>
      match value? c with
      | some d => (d :: (spanDigits value? cs).1, (spanDigits value? cs).2)
      | none   => ([], c :: cs)

/-- The number that a digit sequence denotes. -/
def ofDigits (ds : List Nat) : Nat :=
  ds.foldl (fun n d => 10 * n + d) 0

/-- The decimal with the given digits before and after the point, scaled by a power of ten. -/
def Decimal.ofParts (whole fraction : List Nat) (exponent : Int) : Decimal :=
  ⟨ofDigits (whole ++ fraction), exponent - fraction.length⟩

/-- A leading sign, as whether it is negative, and the remaining text. -/
def spanSign : List Char → Bool × List Char
  | '-' :: cs => (true, cs)
  | '+' :: cs => (false, cs)
  | cs        => (false, cs)

/-- An exponent mark with its signed digits; without digits there is no exponent. -/
def spanExponent (value? : Char → Option Nat) : List Char → Option (Int × List Char)
  | c :: cs =>
      if c = 'e' ∨ c = 'E' then
        let sign := spanSign cs
        match spanDigits value? sign.2 with
        | ([], _)    => none
        | (ds, rest) => some (if sign.1 then -(ofDigits ds : Int) else ofDigits ds, rest)
      else none
  | [] => none

/-- Drops single underscores inside a text; one at an end or next to another is refused. -/
def withoutUnderscores? (cs : List Char) : Option (List Char) :=
  let doubled := (cs.zip (cs.drop 1)).any fun p => p.1 == '_' && p.2 == '_'
  if cs.head? = some '_' ∨ cs.getLast? = some '_' ∨ doubled then none
  else some (cs.filter (· != '_'))

/-- An unsigned decimal that takes up the whole text: digits on at least one side of an optional
    point, then an optional exponent. -/
def readDecimal? (cs : List Char) : Option Decimal :=
  let (whole, afterWhole) := spanDigits asciiDigit? cs
  let (fraction, rest) :=
    match afterWhole with
    | '.' :: r => spanDigits asciiDigit? r
    | r        => ([], r)
  if whole = [] ∧ fraction = [] then none
  else if rest = [] then some (.ofParts whole fraction 0)
  else
    match spanExponent asciiDigit? rest with
    | some (e, []) => some (.ofParts whole fraction e)
    | _            => none

/-- The words for doubles that have no digits, in any case of letters. -/
def readFloatWord? (cs : List Char) : Option Float :=
  let word := cs.map Char.toLower
  if word = "inf".toList ∨ word = "infinity".toList then some (1.0 / 0.0)
  else if word = "nan".toList then some (0.0 / 0.0)
  else none

/-- A double written as text without underscores: a sign, then a decimal or a word. -/
def readPlainFloat? (cs : List Char) : Option Float :=
  let (negative, body) := spanSign cs
  let magnitude := ((readDecimal? body).map Decimal.toFloat).or (readFloatWord? body)
  magnitude.map fun x => if negative then -x else x

/-- A double written as text. -/
def readFloat? (s : String) : Option Float :=
  (readPlainFloat? (trimEnds isWhiteSpace s.toList)).or
    ((withoutUnderscores? s.toList).bind readPlainFloat?)

/-- Whether an integer's text may begin with a character once its zeros are gone. -/
def startsInteger (c : Char) : Bool :=
  c.isDigit && c != '0' || c == '-'

/-- The text after a zero, without further zeros and underscores.  The last of them stays where the
    text ends or a point follows. -/
def afterZero? (last : Char) : List Char → Option (List Char)
  | []      => some [last]
  | c :: cs =>
      if c = '0' ∨ c = '_' then afterZero? c cs
      else if c = '.' then some (last :: c :: cs)
      else if startsInteger c then some (c :: cs)
      else none

/-- The text of an integer without the zeros at its front. -/
def withoutLeadingZeros? : List Char → Option (List Char)
  | []      => none
  | c :: cs =>
      if c = '0' then afterZero? c cs
      else if startsInteger c then some (c :: cs)
      else none

/-- The text without a fraction of zeros; a point alone is no fraction. -/
def withoutZeroFraction (cs : List Char) : List Char :=
  match cs.dropWhile (· != '.') with
  | _ :: z :: zs => if (z :: zs).all (· == '0') then cs.takeWhile (· != '.') else cs
  | _            => cs

/-- A leading minus, as whether it is there, and the remaining text. -/
def spanMinus : List Char → Bool × List Char
  | '-' :: cs => (true, cs)
  | cs        => (false, cs)

/-- The text without a plus that no minus follows. -/
def withoutPlus : List Char → List Char
  | '+' :: '-' :: cs => '+' :: '-' :: cs
  | '+' :: cs        => cs
  | cs               => cs

/-- An integer in its plain form: a minus or none, then digits of which the first is a zero only if
    it is alone. -/
def plainInteger? (cs : List Char) : Option Int :=
  match spanDigits asciiDigit? (spanMinus cs).2 with
  | (d :: ds, []) =>
      if d = 0 ∧ ds ≠ [] then none
      else some (if (spanMinus cs).1 then -(ofDigits (d :: ds) : Int) else ofDigits (d :: ds))
  | _ => none

/-- The plain form of an integer's text. -/
def plainForm? (s : String) : Option (List Char) := do
  let (negative, body) := spanMinus (withoutPlus (trimEnds isWhiteSpace s.toList))
  let digits ← withoutUnderscores? (withoutZeroFraction (← withoutLeadingZeros? body))
  pure (if negative then '-' :: digits else digits)

/-- Why a text is no integer. -/
inductive NotInteger where
  | unreadable
  | oversized
  deriving DecidableEq, Repr

/-- How many characters the plain form of an integer may have. -/
def longestInteger : Nat := 4300

/-- An integer written as text; a sign, zeros at the front, underscores and a fraction of zeros do
    not matter. -/
def readInteger (s : String) : Except NotInteger Int :=
  match plainForm? s with
  | none    => .error .unreadable
  | some cs =>
      if longestInteger < (String.ofList cs).utf8ByteSize then .error .oversized
      else
        match plainInteger? cs with
        | some i => .ok i
        | none   => .error .unreadable

end LessonVariants
