/-!
# Numbers with 53 bits

A finite number of the usual format for computing with fractions: a sign, a whole number of at
most 53 bits and a power of two. Every operation gives the number nearest to the exact result, and
of two that are equally near the one that is even.
-/

namespace ReleaseStaging

/-- The quotient nearest to a fraction; of two that are equally near the even one. -/
def roundQuotient (numerator denominator : Nat) : Nat :=
  let quotient := numerator / denominator
  let twice := 2 * (numerator % denominator)
  if denominator < twice || (twice == denominator && quotient % 2 == 1) then quotient + 1
  else quotient

/-- A finite number without its sign: `mantissa · 2 ^ exponent`. -/
structure Magnitude where
  /-- The whole number. -/
  mantissa : Nat
  /-- The power of two. -/
  exponent : Int
  deriving DecidableEq, Repr, Inhabited

namespace Magnitude

/-- The smallest whole number of 53 bits. -/
def leastMantissa : Nat := 0x10000000000000

/-- The smallest power of two. -/
def leastExponent : Int := -1074

/-- The numerator of the value as a fraction. -/
def numerator (a : Magnitude) : Nat :=
  a.mantissa <<< a.exponent.toNat

/-- The denominator of the value as a fraction. -/
def denominator (a : Magnitude) : Nat :=
  1 <<< (-a.exponent).toNat

/-- The power of two for a fraction that is not zero: the one that leaves 53 bits, unless that is
too small. -/
def exponentFor (numerator denominator : Nat) : Int :=
  let guess : Int := numerator.log2 - denominator.log2
  let isLess :=
    numerator <<< (-guess).toNat < denominator <<< guess.toNat
  max leastExponent ((if isLess then guess - 1 else guess) - 52)

/-- The number nearest to a fraction, unless that is beyond all finite ones. -/
def ofRatio? (numerator denominator : Nat) : Option Magnitude :=
  if numerator = 0 then some ⟨0, leastExponent⟩
  else
    let exponent := exponentFor numerator denominator
    let mantissa := roundQuotient (numerator <<< (-exponent).toNat)
      (denominator <<< exponent.toNat)
    let rounded : Magnitude :=
      if mantissa = 2 * leastMantissa then ⟨leastMantissa, exponent + 1⟩ else ⟨mantissa, exponent⟩
    if 971 < rounded.exponent then none else some rounded

/-- The product of two numbers. -/
def mul? (a b : Magnitude) : Option Magnitude :=
  ofRatio? (a.numerator * b.numerator) (a.denominator * b.denominator)

/-- The quotient of two numbers, the second of which is not zero. -/
def div? (a b : Magnitude) : Option Magnitude :=
  ofRatio? (a.numerator * b.denominator) (a.denominator * b.numerator)

/-- The number nearest to a power of ten. -/
def tenTo (power : Nat) : Magnitude :=
  (ofRatio? (Nat.pow 10 power) 1).getD default

/-- The largest power of ten that is used at once. -/
def largestPower : Nat := 308

/-- A number times a power of ten, one rounding after another: by one power of ten if it is in
range, else by the largest one first. -/
def scale? (a : Magnitude) (power : Int) : Option Magnitude :=
  if _h : power.natAbs ≤ largestPower then
    if 0 ≤ power then a.mul? (tenTo power.natAbs) else a.div? (tenTo power.natAbs)
  else if a.mantissa = 0 then some a
  else if 0 ≤ power then none
  else (a.div? (tenTo largestPower)).bind fun scaled => scaled.scale? (power + largestPower)
termination_by power.natAbs
decreasing_by
  simp only [largestPower] at *
  omega

end Magnitude

/-- A finite number. -/
structure Binary64 where
  /-- Whether the sign is a minus. -/
  isNegative : Bool
  /-- The number without its sign. -/
  magnitude : Magnitude
  deriving DecidableEq, Repr, Inhabited

/-- Whether a number is less than zero; zero is not, whatever its sign. -/
def Binary64.isBelowZero (a : Binary64) : Bool :=
  a.isNegative && a.magnitude.mantissa != 0

end ReleaseStaging
