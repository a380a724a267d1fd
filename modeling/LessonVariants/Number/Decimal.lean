/-! # Decimals

    A decimal is a natural coefficient scaled by a power of ten, as numeric text denotes it.  It
    is exact; `Decimal.toFloat` is the double nearest to it. -/

namespace LessonVariants

/-- A power of two. -/
def twoPow (n : Nat) : Nat := Nat.pow 2 n

/-- A power of ten. -/
def tenPow (n : Nat) : Nat := Nat.pow 10 n

/-- The number `coefficient * 10 ^ exponent`. -/
structure Decimal where
  coefficient : Nat
  exponent    : Int
  deriving DecidableEq, Repr

/-- The decimal digits of a natural number, most significant first. -/
def decimalDigits (n : Nat) : List Char :=
  Nat.toDigits 10 n

/-- The number of decimal digits of a natural number; zero has one. -/
def digitCount (n : Nat) : Nat :=
  (decimalDigits n).length

namespace Decimal

/-- The exact value. -/
def toRat (d : Decimal) : Rat :=
  if 0 ≤ d.exponent then ((d.coefficient * tenPow d.exponent.toNat : Nat) : Rat)
  else mkRat d.coefficient (tenPow (-d.exponent).toNat)

/-- The nearest double, ties to the even significand.  Beyond the largest double it is infinite,
    and far below the smallest it is zero; both are settled by the magnitude alone. -/
def toFloat (d : Decimal) : Float :=
  let magnitude : Int := digitCount d.coefficient + d.exponent
  if d.coefficient = 0 ∨ magnitude < -330 then 0.0
  else if 310 < magnitude then 1.0 / 0.0
  else Float.ofScientific d.coefficient (d.exponent < 0) d.exponent.natAbs

end Decimal

/-- The quotient rounded to the nearest natural number, a half to the even neighbour. -/
def roundDiv (num den : Nat) : Nat :=
  let q := num / den
  let r := num % den
  if 2 * r < den then q
  else if den < 2 * r then q + 1
  else if q % 2 = 0 then q else q + 1

end LessonVariants
