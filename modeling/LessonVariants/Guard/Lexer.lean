import LessonVariants.Guard.Token
import LessonVariants.Number.Numeral
import LessonVariants.Text.Digit

/-! # Splitting guard text into tokens

    Each token is the longest piece of text that one of four classes matches: numbers, strings,
    names and operators.  Blanks separate tokens.  A matcher looks at the text from a boundary on
    and tells the token together with the number of characters it covers; the scan then walks the
    text once, character by character (`lexFrom`). -/

namespace LessonVariants

/-- A token at the head of a text and the number of characters it covers. -/
structure Lexeme where
  token : Token
  size  : Nat
  deriving DecidableEq, Repr

/-- The size of an exponent and its value: a mark, an optional sign and digits. -/
def exponentPart : List Char → Option (Nat × Int)
  | [] => none
  | c :: cs =>
      if c = 'e' ∨ c = 'E' then
        let signSize := match cs with
          | '+' :: _ => 1
          | '-' :: _ => 1
          | _        => 0
        let ds := (spanDigits digitValue? (cs.drop signSize)).1
        if ds = [] then none
        else some (1 + signSize + ds.length,
          if cs.head? = some '-' then -(ofDigits ds : Int) else ofDigits ds)
      else none

/-- The digits before the point and, if there is a point, those after it. -/
def mantissaPart (cs : List Char) : Option (List Nat × Option (List Nat)) :=
  let (whole, rest) := spanDigits digitValue? cs
  match rest with
  | '.' :: r =>
      let fraction := (spanDigits digitValue? r).1
      if whole = [] ∧ fraction = [] then none else some (whole, some fraction)
  | _ => if whole = [] then none else some (whole, none)

/-- A number at the head of the text.  The error is an integer of too many digits. -/
def numberLexeme? (cs : List Char) : Option (Except Malformed Lexeme) :=
  (mantissaPart cs).map fun (whole, fraction?) =>
    let size := whole.length + (match fraction? with | some f => f.length + 1 | none => 0)
    match fraction?, exponentPart (cs.drop size) with
    | none, none =>
        if maxIntegerDigits < whole.length then .error .oversizedInteger
        else .ok ⟨.number (.integer (ofDigits whole)), size⟩
    | f, none        => .ok ⟨.number (.decimal (.ofParts whole (f.getD []) 0)), size⟩
    | f, some (n, e) => .ok ⟨.number (.decimal (.ofParts whole (f.getD []) e)), size + n⟩

/-- The character that an escape stands for. -/
def unescape : Char → Char
  | 'n' => '\n'
  | 't' => '\t'
  | 'r' => '\r'
  | c   => c

/-- The characters up to the closing quote, unescaped, and the number of characters up to and with
    that quote.  A backslash may not stand before a line feed. -/
def stringBody (quote : Char) : List Char → Option (List Char × Nat)
  | [] => none
  | '\\' :: c :: cs =>
      if c = '\n' then none
      else (stringBody quote cs).map fun (body, n) => (unescape c :: body, n + 2)
  | c :: cs =>
      if c = quote then some ([], 1)
      else if c = '\\' then none
      else (stringBody quote cs).map fun (body, n) => (c :: body, n + 1)

/-- A quoted string at the head of the text. -/
def stringLexeme? : List Char → Option Lexeme
  | [] => none
  | c :: cs =>
      if c = '\'' ∨ c = '"' then
        (stringBody c cs).map fun (body, n) => ⟨.string (String.ofList body), n + 1⟩
      else none

/-- Letters of ASCII, the underscore and the dollar sign start a name. -/
def isNameStart (c : Char) : Bool :=
  c.isAlpha || c == '_' || c == '$'

/-- Digits of ASCII may follow in a name. -/
def isNamePart (c : Char) : Bool :=
  isNameStart c || c.isDigit

/-- A name at the head of the text. -/
def nameLexeme? : List Char → Option Lexeme
  | [] => none
  | c :: cs =>
      if isNameStart c then
        let s := c :: cs.takeWhile isNamePart
        some ⟨.name (String.ofList s), s.length⟩
      else none

/-- An operator at the head of the text, the longest one that matches. -/
def opLexeme? : List Char → Option Lexeme
  | '=' :: '=' :: '=' :: _ => some ⟨.op (.compare .strictEqual), 3⟩
  | '!' :: '=' :: '=' :: _ => some ⟨.op (.compare .strictNotEqual), 3⟩
  | '=' :: '=' :: _        => some ⟨.op (.compare .equal), 2⟩
  | '!' :: '=' :: _        => some ⟨.op (.compare .notEqual), 2⟩
  | '<' :: '=' :: _        => some ⟨.op (.compare .atMost), 2⟩
  | '>' :: '=' :: _        => some ⟨.op (.compare .atLeast), 2⟩
  | '&' :: '&' :: _        => some ⟨.op .and, 2⟩
  | '|' :: '|' :: _        => some ⟨.op .or, 2⟩
  | '<' :: _               => some ⟨.op (.compare .below), 1⟩
  | '>' :: _               => some ⟨.op (.compare .above), 1⟩
  | '!' :: _               => some ⟨.op .not, 1⟩
  | '-' :: _               => some ⟨.op .minus, 1⟩
  | '.' :: _               => some ⟨.op .dot, 1⟩
  | '(' :: _               => some ⟨.op .openParen, 1⟩
  | ')' :: _               => some ⟨.op .closeParen, 1⟩
  | '[' :: _               => some ⟨.op .openBracket, 1⟩
  | ']' :: _               => some ⟨.op .closeBracket, 1⟩
  | _                      => none

/-- The token at the head of a text.  The four classes differ in their first characters, a point
    before a digit apart, where the number is the longer one. -/
def lexeme? (cs : List Char) : Option (Except Malformed Lexeme) :=
  (numberLexeme? cs).or <|
    (stringLexeme? cs).or ((nameLexeme? cs).or (opLexeme? cs)) |>.map .ok

/-- The tokens of a text that starts at `position`, of which the next `covered` characters belong
    to the token before. -/
def lexFrom (position covered : Nat) : List Char → Except Malformed (List Located)
  | []      => .ok []
  | c :: cs =>
      match covered with
      | n + 1 => lexFrom (position + 1) n cs
      | 0     =>
          if isBlank c then lexFrom (position + 1) 0 cs
          else
            match lexeme? (c :: cs) with
            | none              => .error (.complaint (.unexpectedCharacter c) position)
            | some (.error e)   => .error e
            | some (.ok lexeme) =>
                (lexFrom (position + 1) (lexeme.size - 1) cs).map (⟨lexeme.token, position⟩ :: ·)

/-- The tokens of a guard text. -/
def lex (source : String) : Except Malformed (List Located) :=
  lexFrom 0 0 source.toList

end LessonVariants
