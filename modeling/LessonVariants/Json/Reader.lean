import LessonVariants.Data
import LessonVariants.Number.Numeral
import LessonVariants.Text.Digit

/-! # Reading JSON text

    JSON text is read into free-form data.  Numbers without fraction and exponent are exact
    integers, all others are doubles; the words `NaN`, `Infinity` and `-Infinity` are numbers too.
    A key that occurs twice keeps its first place and its last value.

    A reader takes characters from the front and returns the rest.  When it fails, it returns the
    text from the offending character on, from which the position follows. -/

namespace LessonVariants.Json

/-- What can be wrong with JSON text. -/
inductive Fault where
  | expectingValue
  | expectingKey
  | expectingColon
  | expectingComma
  | unterminatedString
  | controlCharacter
  | invalidEscape
  | invalidUnicodeEscape
  | extraData
  | byteOrderMark
  | oversizedInteger
  | tooDeep
  deriving DecidableEq, Repr

/-- The text of a fault. -/
def Fault.reason : Fault → String
  | expectingValue       => "Expecting value"
  | expectingKey         => "Expecting property name enclosed in double quotes"
  | expectingColon       => "Expecting ':' delimiter"
  | expectingComma       => "Expecting ',' delimiter"
  | unterminatedString   => "Unterminated string starting at"
  | controlCharacter     => "Invalid control character at"
  | invalidEscape        => "Invalid \\escape"
  | invalidUnicodeEscape => "Invalid \\uXXXX escape"
  | extraData            => "Extra data"
  | byteOrderMark        => "Unexpected UTF-8 BOM (decode using utf-8-sig)"
  | oversizedInteger     => "Exceeds the limit for integer digits"
  | tooDeep              => "Nested too deeply"

/-- A fault and the text from the offending character on. -/
structure Stop where
  fault : Fault
  rest  : List Char

/-- A reader takes characters from the front. -/
abbrev Reader (α : Type) := List Char → Except Stop (α × List Char)

/-- The characters that may stand between the parts of a value. -/
def isSpace (c : Char) : Bool :=
  c == ' ' || c == '\t' || c == '\n' || c == '\r'

/-- The text without leading space. -/
def skipSpace (cs : List Char) : List Char :=
  cs.dropWhile isSpace

/-- The value of four hexadecimal digits, which may not end the text. -/
def hexUnit? : List Char → Option (Nat × List Char)
  | a :: b :: c :: d :: e :: rest => do
      let a ← hexDigit? a
      let b ← hexDigit? b
      let c ← hexDigit? c
      let d ← hexDigit? d
      pure (((a * 16 + b) * 16 + c) * 16 + d, e :: rest)
  | _ => none

/-- The character of one unit, or of a pair of surrogate units.  A surrogate that stands alone has
    no character and is replaced. -/
def unicodeEscape? (cs : List Char) : Option (Char × List Char) := do
  let (high, rest) ← hexUnit? cs
  if 0xD800 ≤ high ∧ high < 0xDC00 then
    match rest with
    | '\\' :: 'u' :: after =>
        match hexUnit? after with
        | some (low, after) =>
            if 0xDC00 ≤ low ∧ low < 0xE000 then
              pure (Char.ofNat (0x10000 + (high - 0xD800) * 0x400 + (low - 0xDC00)), after)
            else pure ('\uFFFD', rest)
        | none => pure ('\uFFFD', rest)
    | _ => pure ('\uFFFD', rest)
  else if 0xDC00 ≤ high ∧ high < 0xE000 then pure ('\uFFFD', rest)
  else pure (Char.ofNat high, rest)

/-- The character that a single-letter escape stands for. -/
def escaped? : Char → Option Char
  | '"'  => some '"'
  | '\\' => some '\\'
  | '/'  => some '/'
  | 'b'  => some '\x08'
  | 'f'  => some '\x0c'
  | 'n'  => some '\n'
  | 'r'  => some '\r'
  | 't'  => some '\t'
  | _    => none

/-- The characters of a string up to its closing quote.  `start` is the text from the opening quote
    on; the number bounds the characters left. -/
def stringBody (start : List Char) : Nat → Reader (List Char)
  | 0,     _  => .error ⟨.unterminatedString, start⟩
  | n + 1, cs =>
      match cs with
      | []           => .error ⟨.unterminatedString, start⟩
      | '"' :: rest  => .ok ([], rest)
      | '\\' :: rest =>
          match rest with
          | []           => .error ⟨.unterminatedString, start⟩
          | 'u' :: after =>
              match unicodeEscape? after with
              | some (c, after) => (stringBody start n after).map fun (body, r) => (c :: body, r)
              | none            => .error ⟨.invalidUnicodeEscape, rest⟩
          | c :: after =>
              match escaped? c with
              | some c => (stringBody start n after).map fun (body, r) => (c :: body, r)
              | none   => .error ⟨.invalidEscape, cs⟩
      | c :: rest =>
          if c.toNat < 0x20 then .error ⟨.controlCharacter, cs⟩
          else (stringBody start n rest).map fun (body, r) => (c :: body, r)

/-- A string whose opening quote stands at the front. -/
def string : Reader String := fun cs =>
  (stringBody cs cs.length (cs.drop 1)).map fun (body, rest) => (String.ofList body, rest)

/-- The digits before the point: a zero alone, or digits that do not start with one. -/
def wholePart (cs : List Char) : Option (List Nat × List Char) :=
  match cs with
  | '0' :: rest => some ([0], rest)
  | _ =>
      match spanDigits asciiDigit? cs with
      | ([], _) => none
      | r       => some r

/-- An unsigned number: a whole part, then a fraction and an exponent if they are complete. -/
def unsigned? (cs : List Char) : Option (Except Fault (Number × List Char)) :=
  (wholePart cs).map fun (whole, rest) =>
    let (fraction, afterFraction) :=
      match rest with
      | '.' :: r =>
          match spanDigits asciiDigit? r with
          | ([], _) => ([], rest)
          | r       => r
      | _ => ([], rest)
    match fraction, spanExponent asciiDigit? afterFraction with
    | [], none =>
        if 4300 < whole.length then .error .oversizedInteger
        else .ok (.int (ofDigits whole), afterFraction)
    | f, none        => .ok (.float (Decimal.ofParts whole f 0).toFloat, afterFraction)
    | f, some (e, r) => .ok (.float (Decimal.ofParts whole f e).toFloat, r)

/-- A number at the front of the text. -/
def number : Reader Number := fun cs =>
  let (negative, body) := match cs with
    | '-' :: r => (true, r)
    | r        => (false, r)
  match unsigned? body with
  | none                => .error ⟨.expectingValue, cs⟩
  | some (.error f)     => .error ⟨f, cs⟩
  | some (.ok (n, r))   => .ok (if negative then -n else n, r)

/-- A constant word at the front of the text. -/
def word? (cs : List Char) : Option (Data Number × List Char) :=
  let words : List (String × Data Number) :=
    [("null", .null), ("true", .bool true), ("false", .bool false),
     ("NaN", .number (.float (0.0 / 0.0))), ("Infinity", .number (.float (1.0 / 0.0))),
     ("-Infinity", .number (.float (-1.0 / 0.0)))]
  (words.find? fun w => w.1.toList.isPrefixOf cs).map fun w => (w.2, cs.drop w.1.length)

mutual

/-- A value at the front of the text, within an allowance of nesting. -/
def value (depth : Nat) : Nat → Reader (Data Number)
  | 0,     cs => .error ⟨.expectingValue, cs⟩
  | n + 1, cs =>
      match cs with
      | '"' :: _ => (string cs).map fun (s, rest) => (.text s, rest)
      | '[' :: rest =>
          if depth = 0 then .error ⟨.tooDeep, cs⟩
          else
            match skipSpace rest with
            | ']' :: rest => .ok (.list [], rest)
            | rest        => (items (depth - 1) n rest).map fun (xs, rest) => (.list xs, rest)
      | '\x7b' :: rest =>
          if depth = 0 then .error ⟨.tooDeep, cs⟩
          else
            match skipSpace rest with
            | '\x7d' :: rest => .ok (.object [], rest)
            | rest           =>
                (members (depth - 1) n rest).map fun (es, rest) =>
                  (.object (Keyed.ofEntries es), rest)
      | cs =>
          match word? cs with
          | some r => .ok r
          | none   => (number cs).map fun (x, rest) => (.number x, rest)

/-- The items of a list up to its closing bracket. -/
def items (depth : Nat) : Nat → Reader (List (Data Number))
  | 0,     cs => .error ⟨.expectingValue, cs⟩
  | n + 1, cs => do
      let (x, rest) ← value depth n cs
      match skipSpace rest with
      | ']' :: rest => pure ([x], rest)
      | ',' :: rest => (items depth n (skipSpace rest)).map fun (xs, rest) => (x :: xs, rest)
      | rest        => .error ⟨.expectingComma, rest⟩

/-- The members of an object up to its closing brace. -/
def members (depth : Nat) : Nat → Reader (List (String × Data Number))
  | 0,     cs => .error ⟨.expectingKey, cs⟩
  | n + 1, cs =>
      match cs with
      | '"' :: _ => do
          let (key, rest) ← string cs
          match skipSpace rest with
          | ':' :: rest => do
              let (x, rest) ← value depth n (skipSpace rest)
              match skipSpace rest with
              | '\x7d' :: rest => pure ([(key, x)], rest)
              | ',' :: rest    =>
                  (members depth n (skipSpace rest)).map fun (es, rest) => ((key, x) :: es, rest)
              | rest           => .error ⟨.expectingComma, rest⟩
          | rest => .error ⟨.expectingColon, rest⟩
      | cs => .error ⟨.expectingKey, cs⟩

end

/-- The levels of nesting that a text may have. -/
def nestingAllowance : Nat := 950

/-- A whole text: one value with space around it.  A character opens at most one value and the items
    in it, so twice the number of characters bounds the readers that run inside one another. -/
def document (cs : List Char) : Except Stop (Data Number) :=
  match cs with
  | '\uFEFF' :: _ => .error ⟨.byteOrderMark, cs⟩
  | _ => do
      let (d, rest) ← value nestingAllowance (2 * cs.length + 1) (skipSpace cs)
      match skipSpace rest with
      | []   => pure d
      | rest => .error ⟨.extraData, rest⟩

/-- A fault in a text, with the line, the column and the index of the offending character. -/
def describe (source : List Char) (stop : Stop) : String :=
  let index := source.length - stop.rest.length
  let before := source.take index
  let line := before.count '\n' + 1
  let column := (before.reverse.takeWhile (· != '\n')).length + 1
  stop.fault.reason ++ ": line " ++ toString line ++ " column " ++ toString column ++
    " (char " ++ toString index ++ ")"

end LessonVariants.Json
