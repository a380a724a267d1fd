import LessonVariants.Number.Decimal

/-! # Guard tokens

    The words of the guard language and their written forms. -/

namespace LessonVariants

/-- The comparison operators.  The strict forms mean the same as the plain ones. -/
inductive Comparator where
  | equal | strictEqual | notEqual | strictNotEqual | below | atMost | above | atLeast
  deriving DecidableEq, Repr

/-- The written form of a comparison operator. -/
def Comparator.text : Comparator → String
  | equal          => "=="
  | strictEqual    => "==="
  | notEqual       => "!="
  | strictNotEqual => "!=="
  | below          => "<"
  | atMost         => "<="
  | above          => ">"
  | atLeast        => ">="

/-- All comparison operators. -/
def Comparator.all : List Comparator :=
  [equal, strictEqual, notEqual, strictNotEqual, below, atMost, above, atLeast]

/-- Operators and punctuation. -/
inductive Op where
  | compare (c : Comparator)
  | and | or | not | minus | dot | openParen | closeParen | openBracket | closeBracket
  deriving DecidableEq, Repr

/-- The written form of an operator. -/
def Op.text : Op → String
  | compare c    => c.text
  | and          => "&&"
  | or           => "||"
  | not          => "!"
  | minus        => "-"
  | dot          => "."
  | openParen    => "("
  | closeParen   => ")"
  | openBracket  => "["
  | closeBracket => "]"

/-- A number as written: digits alone are an exact integer, a point or an exponent makes a decimal. -/
inductive Numeral where
  | integer (n : Nat)
  | decimal (d : Decimal)
  deriving DecidableEq, Repr

/-- A word of the guard language.  Strings are held without quotes and escapes. -/
inductive Token where
  | number (n : Numeral)
  | string (s : String)
  | name   (s : String)
  | op     (o : Op)
  deriving DecidableEq, Repr

/-- A token with the index of its first character. -/
structure Located where
  token    : Token
  position : Nat
  deriving DecidableEq, Repr

/-- Why a text is no guard. -/
inductive Complaint where
  | unexpectedCharacter (c : Char)
  | emptyExpression
  | unexpectedToken (t : Token)
  | unexpectedEnd
  | expected (o : Op)
  | unknownName (s : String)
  | expectedProperty
  | expectedIndex
  deriving DecidableEq, Repr

/-- A text that yields no expression: a complaint at a position, an integer of too many digits, or
    an expression nested too deeply. -/
inductive Malformed where
  | complaint (c : Complaint) (position : Nat)
  | oversizedInteger
  | tooDeep
  deriving DecidableEq, Repr

end LessonVariants
