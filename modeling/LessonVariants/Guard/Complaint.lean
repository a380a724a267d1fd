import LessonVariants.Guard.Expr
import LessonVariants.Number.Basic
import LessonVariants.Text.Quoted

/-! # What authors are told about guards that do not parse -/

namespace LessonVariants

/-- A written number as a number of the engine. -/
def Numeral.toScalar {ρ : Type} [Scalar ρ] : Numeral → ρ
  | .integer n => Scalar.ofInt n
  | .decimal d => Scalar.ofDecimal d

/-- A token as messages show it: numbers as they are, all else between quotes. -/
def Token.shown : Token → String
  | .number n => (n.toScalar : Number).text
  | .string s => quoted s
  | .name s   => quoted s
  | .op o     => quoted o.text

/-- The text of a complaint without its position. -/
def Complaint.reason : Complaint → String
  | .unexpectedCharacter c => "Unexpected character " ++ quoted c.toString
  | .emptyExpression       => "Empty expression"
  | .unexpectedToken t     => "Unexpected token " ++ t.shown
  | .unexpectedEnd         => "Unexpected end of expression"
  | .expected o            => "Expected " ++ quoted o.text
  | .unknownName s         =>
      "Unknown name " ++ quoted s ++ "; expected one of " ++ ", ".intercalate (Root.all.map Root.text)
  | .expectedProperty      => "Expected property name after '.'"
  | .expectedIndex         => "Expected string or number index"

/-- The text of a complaint. -/
def Complaint.message (c : Complaint) (position : Nat) : String :=
  c.reason ++ " (at position " ++ toString position ++ ")"

end LessonVariants
