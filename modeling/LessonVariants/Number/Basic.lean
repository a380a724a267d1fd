import LessonVariants.Number.Shortest

/-! # Numbers

    A number of the engine is an exact integer or a double.  Two integers stay an integer under
    addition, subtraction and multiplication; with a double on either side the result is a
    double.  Comparison goes through the exact readings and never rounds.

    The engine's arithmetic is written against `Scalar`, so that it can also be read over the
    rationals, where no operation rounds. -/

namespace LessonVariants

/-- An unbounded integer or a double. -/
inductive Number where
  | int   (value : Int)
  | float (value : Float)
  deriving DecidableEq

/-- The double nearest to an integer; infinite beyond the range of doubles. -/
def intToFloat (i : Int) : Float :=
  let x := Decimal.toFloat ⟨i.natAbs, 0⟩
  if i < 0 then -x else x

/-- An integer of more digits than this is not read from a text, and not written as one. -/
def maxIntegerDigits : Nat := 4300

namespace Number

/-- The number as a double, an integer being rounded to the nearest one. -/
def toFloat : Number → Float
  | int i   => intToFloat i
  | float x => x

/-- Whether the number has a double at all: an integer may lie beyond the largest one. -/
def hasFloat : Number → Bool
  | int i   => (magnitude? (intToFloat i)).isSome
  | float _ => true

/-- Whether arithmetic on two numbers has a result: an integer beyond the range of doubles cannot be
    joined with a double. -/
def compatible : Number → Number → Bool
  | int _, int _ => true
  | a,     b     => a.hasFloat && b.hasFloat

/-- The exact reading of a number. -/
def reading : Number → Reading
  | int i   => .finite i
  | float x => .ofFloat x

/-- Lifts an operation of integers and one of doubles to numbers. -/
def lift₂ (onInts : Int → Int → Int) (onFloats : Float → Float → Float) : Number → Number → Number
  | int i, int j => int (onInts i j)
  | a,     b     => float (onFloats a.toFloat b.toFloat)

instance : Add Number := ⟨lift₂ (· + ·) (· + ·)⟩
instance : Sub Number := ⟨lift₂ (· - ·) (· - ·)⟩
instance : Mul Number := ⟨lift₂ (· * ·) (· * ·)⟩

instance : Neg Number where
  neg
    | int i   => int (-i)
    | float x => float (-x)

instance (n : Nat) : OfNat Number n := ⟨int n⟩

/-- The text of a number in messages: integers in full, doubles in their shortest form. -/
def text : Number → String
  | int i   => toString i
  | float x => floatText "nan" "inf" x

/-- Whether the number can be written: an integer may have too many digits. -/
def hasText : Number → Bool
  | int i   => decide (i.natAbs < Nat.pow 10 maxIntegerDigits)
  | float _ => true

end Number

/-- The arithmetic that the engine needs: ring operations, constants given as decimals, an exact
    reading by which numbers are compared, and whether a number can be written in a message. -/
class Scalar (ρ : Type) extends Add ρ, Sub ρ, Mul ρ, Neg ρ where
  ofInt     : Int → ρ
  ofDecimal : Decimal → ρ
  reading   : ρ → Reading
  hasText   : ρ → Bool

instance : Scalar Number where
  ofInt     := .int
  ofDecimal := fun d => .float d.toFloat
  reading   := Number.reading
  hasText   := Number.hasText

instance : Scalar Rat where
  ofInt     := fun i => i
  ofDecimal := Decimal.toRat
  reading   := .finite
  hasText   := fun _ => true

namespace Scalar

variable {ρ : Type} [Scalar ρ]

/-- The order of two scalars; none if one of them is undefined. -/
def compare? (a b : ρ) : Option Ordering :=
  (reading a).compare? (reading b)

/-- Strictly below. -/
def lt (a b : ρ) : Bool := compare? a b == some .lt

/-- The same value. -/
def eq (a b : ρ) : Bool := compare? a b == some .eq

/-- Below or the same value. -/
def le (a b : ρ) : Bool := compare? a b == some .lt || compare? a b == some .eq

/-- Whether the value is zero, of either sign. -/
def isZero (a : ρ) : Bool := reading a == .finite 0

/-- The first argument, unless the second is strictly above it. -/
def maxFirst (a b : ρ) : ρ := if lt a b then b else a

/-- The first argument, unless the second is strictly below it. -/
def minFirst (a b : ρ) : ρ := if lt b a then b else a

end Scalar

end LessonVariants
