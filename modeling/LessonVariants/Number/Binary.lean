import LessonVariants.Number.Decimal

/-! # Exact readings of doubles

    A finite double is an integer times a power of two.  `Reading.ofFloat` takes it apart and
    gives its exact value as a rational, so that comparisons never round. -/

namespace LessonVariants

/-- What a number denotes: a rational, one of two infinities, or nothing at all. -/
inductive Reading where
  | undefined
  | negInfinity
  | finite (q : Rat)
  | posInfinity
  deriving DecidableEq

namespace Reading

/-- The order of two readings, where the undefined one is comparable to none. -/
def compare? : Reading → Reading → Option Ordering
  | undefined,   _           => none
  | _,           undefined   => none
  | negInfinity, negInfinity => some .eq
  | negInfinity, _           => some .lt
  | _,           negInfinity => some .gt
  | posInfinity, posInfinity => some .eq
  | posInfinity, _           => some .gt
  | _,           posInfinity => some .lt
  | finite p,    finite q    =>
      some (if p < q then .lt else if p = q then .eq else .gt)

end Reading

/-- The magnitude of a finite double as `significand * 2 ^ exponent`. -/
structure BinaryMagnitude where
  significand : Nat
  exponent    : Int
  deriving DecidableEq, Repr

namespace BinaryMagnitude

/-- The numerator of the magnitude as a fraction over `denominator`. -/
def numerator (b : BinaryMagnitude) : Nat :=
  b.significand * twoPow b.exponent.toNat

/-- The denominator of the magnitude: a power of two. -/
def denominator (b : BinaryMagnitude) : Nat :=
  twoPow (-b.exponent).toNat

/-- The exact value. -/
def toRat (b : BinaryMagnitude) : Rat :=
  mkRat b.numerator b.denominator

end BinaryMagnitude

/-- The bit above the fraction, which normal doubles have without storing it: two to the 52nd. -/
def implicitBit : Nat := 0x10000000000000

/-- Whether the sign bit of a double is set; it is for negative zero too. -/
def signBit (x : Float) : Bool :=
  0x8000000000000000 ≤ x.toBits.toNat

/-- The eleven exponent bits of a double. -/
def exponentBits (x : Float) : Nat :=
  x.toBits.toNat / implicitBit % 0x800

/-- The fifty-two fraction bits of a double. -/
def fractionBits (x : Float) : Nat :=
  x.toBits.toNat % implicitBit

/-- The magnitude of a double, nothing for the infinities and the undefined double. -/
def magnitude? (x : Float) : Option BinaryMagnitude :=
  let e := exponentBits x
  if e = 2047 then none
  else if e = 0 then some ⟨fractionBits x, -1074⟩
  else some ⟨implicitBit + fractionBits x, (e : Int) - 1075⟩

/-- The exact reading of a double.  Both zeros read as zero. -/
def Reading.ofFloat (x : Float) : Reading :=
  match magnitude? x with
  | some b => .finite (if signBit x then -b.toRat else b.toRat)
  | none   =>
      if fractionBits x ≠ 0 then .undefined
      else if signBit x then .negInfinity else .posInfinity

end LessonVariants
