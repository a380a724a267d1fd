import LessonVariants.Text.Blank
import LessonVariants.Text.Emoji

/-! # Parameters of action tags

    A style tag whose name starts with an at sign stands for an action.  Its parameters are a name, a
    name with arguments in parentheses, or arguments alone.  Arguments are constants: numbers, texts,
    the words `True`, `False` and `None`, and tuples, sets and maps of constants.  Markup is refused
    where they are anything else. -/

namespace LessonVariants.Parameter

/-- What matters of a constant: whether it is a number, possibly with an imaginary part or a sign of
    its own, and whether it may be a member of a set or a key. -/
inductive Constant where
  | number (isImaginary : Bool)
  | signed (isImaginary : Bool)
  | member
  | collection
  deriving DecidableEq, Repr

/-- Whether a constant may be a member of a set or a key. -/
def Constant.isMember : Constant → Bool
  | collection => false
  | _          => true

/-- A constant at the front of a text and the text after it. -/
abbrev Reading := Option (Constant × List Char)

/-- Whether a character may be part of a name. -/
def isNamePart (c : Char) : Bool :=
  c.isAlphanum || c == '_' || c.toNat ≥ 0x80 && !isBlank c

/-- The text without the blanks at its front; within brackets line feeds count as blanks.  The number
    bounds the characters. -/
def skip (nested : Bool) : Nat → List Char → List Char
  | 0,     cs => cs
  | n + 1, cs =>
      match cs with
      | '\\' :: '\n' :: rest => skip nested n rest
      | '#' :: rest          => skip nested n (rest.dropWhile (· != '\n'))
      | '\n' :: rest         => if nested then skip nested n rest else cs
      | c :: rest            =>
          if c = ' ' ∨ c = '\t' ∨ c = '\x0c' then skip nested n rest else cs
      | [] => []

/-- Digits at the front, with single underscores between them, and the text after them; the flag
    tells whether an underscore may stand here. -/
def spanSeparated (isDigit : Char → Bool) (inside : Bool) : List Char → List Char × List Char
  | []      => ([], [])
  | c :: cs =>
      if isDigit c then (c :: (spanSeparated isDigit true cs).1, (spanSeparated isDigit true cs).2)
      else if inside && c == '_' && cs.head?.any isDigit then spanSeparated isDigit false cs
      else ([], c :: cs)

/-- Digits at the front, if there are any, and the text after them. -/
def digits? (isDigit : Char → Bool) (cs : List Char) : Option (List Char × List Char) :=
  match spanSeparated isDigit false cs with
  | ([], _) => none
  | r       => some r

/-- The text after an exponent, if there is one. -/
def afterExponent? : List Char → Option (List Char)
  | c :: cs =>
      if c = 'e' ∨ c = 'E' then
        let signed := cs.head? = some '+' ∨ cs.head? = some '-'
        (digits? Char.isDigit (if signed then cs.drop 1 else cs)).map (·.2)
      else none
  | [] => none

/-- The text after a fraction, of which the digits may be left out; nothing if there is no point. -/
def afterFraction? : List Char → Option (List Char)
  | '.' :: cs => some (((digits? Char.isDigit cs).map (·.2)).getD cs)
  | _         => none

/-- What follows the digits of a number: the mark of an imaginary part or nothing, but no name. -/
def endOfNumber (cs : List Char) : Reading :=
  let imaginary := cs.head? == some 'j' || cs.head? == some 'J'
  let rest := if imaginary then cs.drop 1 else cs
  if (rest.head?).any isNamePart then none else some (.number imaginary, rest)

/-- A number with a base of its own, after its zero. -/
def based? : List Char → Option (List Char)
  | c :: cs =>
      let digits := fun isDigit =>
        (digits? isDigit (if cs.head? = some '_' then cs.drop 1 else cs)).map (·.2)
      if c = 'x' ∨ c = 'X' then digits fun d => (hexDigit? d).isSome
      else if c = 'o' ∨ c = 'O' then digits fun d => '0' ≤ d && d ≤ '7'
      else if c = 'b' ∨ c = 'B' then digits fun d => d == '0' || d == '1'
      else none
  | [] => none

/-- A number at the front.  An integer has no zeros at its front. -/
def number? (cs : List Char) : Reading :=
  match if cs.head? = some '0' then based? (cs.drop 1) else none with
  | some rest => if (rest.head?).any isNamePart then none else some (.number false, rest)
  | none =>
      let (whole, afterWhole) := (digits? Char.isDigit cs).getD ([], cs)
      let fraction := afterFraction? afterWhole
      let afterDigits := fraction.getD afterWhole
      let exponent := afterExponent? afterDigits
      match endOfNumber (exponent.getD afterDigits) with
      | some (.number false, rest) =>
          let isInteger := fraction.isNone && exponent.isNone
          if isInteger && whole.length > 1 && whole.head? == some '0' && !whole.all (· == '0') then
            none
          else some (.number false, rest)
      | r => r

/-- The text after an escape in a text, given what follows its backslash. -/
def afterEscape? (isBytes : Bool) : List Char → Option (List Char)
  | []      => none
  | c :: cs =>
      let hex := fun n =>
        if (cs.take n).length = n ∧ (cs.take n).all fun d => (hexDigit? d).isSome then
          some (cs.drop n)
        else none
      if c = 'x' then hex 2
      else if c = 'u' ∧ !isBytes then hex 4
      else if c = 'U' ∧ !isBytes then
        if (cs.take 3).all (· == '0') ∨ cs.take 4 = "0010".toList then hex 8 else none
      else if c = 'N' ∧ !isBytes then
        match cs.dropWhile (· != '\x7d') with
        | _ :: rest => if cs.head? = some '\x7b' then some rest else none
        | []        => none
      else some cs

/-- The text after the end of a text that has been opened by a quote, or by three.  The number bounds
    the characters. -/
def afterText? (quote : Char) (tripled isRaw isBytes : Bool) : Nat → List Char → Option (List Char)
  | 0,     _       => none
  | _ + 1, []      => none
  | n + 1, c :: cs =>
      if c = '\\' then
        (if isRaw then cs.tail? else afterEscape? isBytes cs).bind
          (afterText? quote tripled isRaw isBytes n)
      else if c = quote ∧ !tripled then some cs
      else if c = quote ∧ cs.take 2 = [quote, quote] then some (cs.drop 2)
      else if (c = '\n' ∧ !tripled) ∨ (isBytes ∧ c.toNat ≥ 0x80) then none
      else afterText? quote tripled isRaw isBytes n cs

/-- A single text with its marks, as whether it is one of bytes, and what follows. -/
def oneText? (cs : List Char) : Option (Bool × List Char) :=
  let marks := (cs.takeWhile Char.isAlpha).map Char.toLower
  if String.ofList marks ∉ ["", "r", "u", "b", "br", "rb"] then none
  else
    match cs.drop marks.length with
    | quote :: rest =>
        if quote ≠ '\'' ∧ quote ≠ '"' then none
        else
          let tripled := rest.take 2 == [quote, quote]
          let isBytes := marks.contains 'b'
          (afterText? quote tripled (marks.contains 'r') isBytes (rest.length + 1)
            (if tripled then rest.drop 2 else rest)).map fun after => (isBytes, after)
    | [] => none

/-- Texts that stand next to each other, all of one kind.  The number bounds the texts. -/
def texts? (nested : Bool) : Nat → List Char → Option (Bool × List Char)
  | 0,     _  => none
  | n + 1, cs => do
      let (isBytes, rest) ← oneText? cs
      match texts? nested n (skip nested rest.length rest) with
      | some (others, after) => if others = isBytes then some (isBytes, after) else none
      | none                 => some (isBytes, rest)

/-- A word at the front: one of the constant words, or an empty set. -/
def word? (nested : Bool) (cs : List Char) : Reading :=
  let name := String.ofList (cs.takeWhile isNamePart)
  let rest := cs.dropWhile isNamePart
  if ["True", "False", "None"].contains name then some (.member, rest)
  else if name = "set" then
    match skip nested rest.length rest with
    | '(' :: rest =>
        match skip true rest.length rest with
        | ')' :: rest => some (.collection, rest)
        | _           => none
    | _ => none
  else none

mutual

/-- A constant at the front: with a sign, as the sum of a real and an imaginary number, or plain. -/
def constant? (nested : Bool) : Nat → List Char → Reading
  | 0,     _  => none
  | n + 1, cs => do
      let (first, rest) ← signed? nested n (skip nested cs.length cs)
      match first, skip nested rest.length rest with
      | .number false, c :: after => if c = '+' ∨ c = '-' then sum? nested n after else some (first, rest)
      | .signed false, c :: after => if c = '+' ∨ c = '-' then sum? nested n after else some (first, rest)
      | _,             _          => some (first, rest)

/-- The imaginary number that ends a sum. -/
def sum? (nested : Bool) : Nat → List Char → Reading
  | 0,     _  => none
  | n + 1, cs =>
      match atom? nested n (skip nested cs.length cs) with
      | some (.number true, rest) => some (.member, rest)
      | _                         => none

/-- A constant that may have a sign; only numbers have one. -/
def signed? (nested : Bool) : Nat → List Char → Reading
  | 0,     _  => none
  | n + 1, cs =>
      if cs.head? = some '+' ∨ cs.head? = some '-' then
        match atom? nested n (skip nested cs.length (cs.drop 1)) with
        | some (.number imaginary, rest) => some (.signed imaginary, rest)
        | _                              => none
      else atom? nested n cs

/-- A constant without a sign. -/
def atom? (nested : Bool) : Nat → List Char → Reading
  | 0,     _  => none
  | n + 1, cs =>
      match cs with
      | '(' :: rest           => tuple? n rest
      | '\x7b' :: rest        => (members? n (skip true rest.length rest)).map fun r => (.collection, r)
      | '.' :: '.' :: '.' :: rest => some (.member, rest)
      | '.' :: d :: _         => if d.isDigit then number? cs else none
      | c :: _                =>
          if c.isDigit then number? cs
          else
            match texts? nested n cs with
            | some (_, rest) => some (.member, rest)
            | none           => word? nested cs
      | [] => none

/-- The inside of parentheses: nothing, one constant, or a tuple. -/
def tuple? : Nat → List Char → Reading
  | 0,     _  => none
  | n + 1, cs => do
      match skip true cs.length cs with
      | ')' :: rest => some (.member, rest)
      | cs =>
          let (first, rest) ← constant? true n cs
          match skip true rest.length rest with
          | ')' :: rest => some (first, rest)
          | ',' :: rest => (row? first.isMember n (skip true rest.length rest))
          | _           => none

/-- The rest of a tuple after a comma, given whether what came before may be a member of a set. -/
def row? (soFar : Bool) : Nat → List Char → Reading
  | 0,     _  => none
  | n + 1, cs => do
      match cs with
      | ')' :: rest => some (if soFar then .member else .collection, rest)
      | cs =>
          let (next, rest) ← constant? true n cs
          let soFar := soFar && next.isMember
          match skip true rest.length rest with
          | ')' :: rest => some (if soFar then .member else .collection, rest)
          | ',' :: rest => row? soFar n (skip true rest.length rest)
          | _           => none

/-- The inside of braces: a set, or a map if the first member has a value. -/
def members? : Nat → List Char → Option (List Char)
  | 0,     _  => none
  | n + 1, cs => do
      match cs with
      | '\x7d' :: rest => some rest
      | cs =>
          let (first, rest) ← constant? true n cs
          if !first.isMember then none
          else
            match skip true rest.length rest with
            | ':' :: after =>
                let (_, rest) ← constant? true n after
                others? true n (skip true rest.length rest)
            | rest => others? false n rest

/-- The further members of a set or map, after one of them. -/
def others? (isMap : Bool) : Nat → List Char → Option (List Char)
  | 0,     _  => none
  | n + 1, cs => do
      match cs with
      | '\x7d' :: rest => some rest
      | ',' :: rest =>
          match skip true rest.length rest with
          | '\x7d' :: rest => some rest
          | cs =>
              let (next, rest) ← constant? true n cs
              if !next.isMember then none
              else
                match isMap, skip true rest.length rest with
                | true,  ':' :: after =>
                    let (_, rest) ← constant? true n after
                    others? true n (skip true rest.length rest)
                | true,  _    => none
                | false, rest => others? false n rest
      | _ => none

end

/-- Whether a text holds constants with commas between them.  The number bounds the constants. -/
def isRow : Nat → List Char → Bool
  | 0,     _  => false
  | n + 1, cs =>
      match constant? false (4 * cs.length + 8) cs with
      | none           => false
      | some (_, rest) =>
          match skip false rest.length rest with
          | []          => true
          | ',' :: rest => (skip false rest.length rest).isEmpty || isRow n rest
          | _           => false

/-- Whether the parameters of an action tag are in order. -/
def isSound (parameters : List Char) : Bool :=
  let cs := trimEnds isBlank parameters
  let inName := fun c => isNamePart c || c == '.'
  let rest := cs.dropWhile inName
  let isCall := rest.head? == some '(' && rest.getLast? == some ')' && !rest.contains '\n'
  if rest.isEmpty then true
  else isRow (cs.length + 1) (if isCall then rest else cs)

end LessonVariants.Parameter
