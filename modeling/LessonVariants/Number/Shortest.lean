import LessonVariants.Number.Binary
import LessonVariants.Number.Decimal

/-! # Shortest decimals

    The text of a double has the fewest digits that still read back as that double, and among
    those the nearest.  A decimal reads back exactly when it lies in the interval of reals that
    round to the double; the interval holds its ends when the significand is even.  For each
    number of digits only the two neighbours of the double on that decimal grid can be meant, so
    the search tries these, grid by grid, in exact arithmetic. -/

namespace LessonVariants

/-- Compares `a * 10 ^ i` with `b * 2 ^ j` without rounding. -/
def compareScaled (a : Nat) (i : Int) (b : Nat) (j : Int) : Ordering :=
  compare (a * tenPow i.toNat * twoPow (-j).toNat) (b * twoPow j.toNat * tenPow (-i).toNat)

namespace BinaryMagnitude

/-- The distance of the lower end of the rounding interval, in quarters of the last place.  Below
    a power of two the next double is only half as far. -/
def lowerQuarters (b : BinaryMagnitude) : Nat :=
  if b.significand = implicitBit ∧ b.exponent ≠ -1074 then 1 else 2

/-- Whether the decimal `c * 10 ^ k` rounds to this double. -/
def readsBack (b : BinaryMagnitude) (c : Nat) (k : Int) : Bool :=
  let closed := b.significand % 2 == 0
  let low := compareScaled c k (4 * b.significand - b.lowerQuarters) (b.exponent - 2)
  let high := compareScaled c k (4 * b.significand + 2) (b.exponent - 2)
  (low == .gt || (closed && low == .eq)) && (high == .lt || (closed && high == .eq))

/-- The number of digits before the decimal point; it is not positive for a value below one tenth. -/
def decimalMagnitude (b : BinaryMagnitude) : Int :=
  let guess : Int := digitCount b.numerator - digitCount b.denominator
  if compareScaled 1 guess b.significand b.exponent == .gt then guess else guess + 1

/-- The candidate with the given number of digits, if a neighbour on that grid reads back. -/
def candidate? (b : BinaryMagnitude) (digits : Nat) : Option Decimal :=
  let k := b.decimalMagnitude - digits
  let num := b.numerator * tenPow (-k).toNat
  let den := b.denominator * tenPow k.toNat
  let below := num / den
  match b.readsBack below k, b.readsBack (below + 1) k with
  | true,  true  => some ⟨roundDiv num den, k⟩
  | true,  false => some ⟨below, k⟩
  | false, true  => some ⟨below + 1, k⟩
  | false, false => none

/-- The decimal with the fewest digits that reads back as this double.  Seventeen digits always
    suffice, so the last resort is never reached. -/
def shortest (b : BinaryMagnitude) : Decimal :=
  ((List.range 17).findSome? fun n => b.candidate? (n + 1)).getD ⟨b.significand, 0⟩

end BinaryMagnitude

/-- A digit sequence without its trailing zeros; at least one digit stays. -/
def trimTrailingZeros (ds : List Char) : List Char :=
  match (ds.reverse.dropWhile (· == '0')).reverse with
  | [] => ['0']
  | r  => r

/-- Exponents are signed and have at least two digits. -/
def exponentText (e : Int) : List Char :=
  let ds := decimalDigits e.natAbs
  (if e < 0 then '-' else '+') :: (List.replicate (2 - ds.length) '0' ++ ds)

/-- A positive decimal in full when its leading digit stands between the fourth place after the
    point and the sixteenth before it, and in scientific form otherwise.  Without a fraction the
    full form ends in `.0`. -/
def Decimal.text (d : Decimal) : List Char :=
  let all := decimalDigits d.coefficient
  let ds := trimTrailingZeros all
  let point : Int := all.length + d.exponent
  if -4 < point ∧ point ≤ 0 then
    '0' :: '.' :: (List.replicate (-point).toNat '0' ++ ds)
  else if 0 < point ∧ point ≤ 16 then
    let n := point.toNat
    let fraction := ds.drop n
    ds.take n ++ List.replicate (n - ds.length) '0' ++ '.' :: (if fraction = [] then ['0'] else fraction)
  else
    let fraction := ds.drop 1
    ds.take 1 ++ (if fraction = [] then [] else '.' :: fraction) ++ 'e' :: exponentText (point - 1)

/-- The shortest text of a finite double; the texts of the others are the caller's. -/
def floatText (undefined infinity : String) (x : Float) : String :=
  match magnitude? x with
  | none   =>
      if fractionBits x ≠ 0 then undefined
      else if signBit x then "-" ++ infinity else infinity
  | some b =>
      let body := if b.significand = 0 then ['0', '.', '0'] else b.shortest.text
      String.ofList (if signBit x then '-' :: body else body)

/-- A double with a fixed number of places after the point, a half going to the even neighbour. -/
def fixedText (places : Nat) (x : Float) : String :=
  match magnitude? x with
  | none   =>
      if fractionBits x ≠ 0 then "nan" else if signBit x then "-inf" else "inf"
  | some b =>
      let ds := decimalDigits (roundDiv (b.numerator * tenPow places) b.denominator)
      let ds := List.replicate (places + 1 - ds.length) '0' ++ ds
      let whole := ds.take (ds.length - places)
      let body := whole ++ (if places = 0 then [] else '.' :: ds.drop (ds.length - places))
      String.ofList (if signBit x then '-' :: body else body)

end LessonVariants
