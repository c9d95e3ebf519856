import ReleaseStaging.Binary64.Basic

/-!
# The shortest decimal text of a number

A number is written with the fewest digits that lead back to it, and with the ones nearest to it
among those; of two that are equally near it is the greater one. Digits are written one by one,
without an exponent.
-/

namespace ReleaseStaging

namespace Magnitude

/-- The number of decimal digits of a natural number; zero has none. -/
def digitCount (n : Nat) : Nat :=
  if n = 0 then 0 else (Nat.toDigits 10 n).length

/-- The power of ten of the first digit of a number that is not zero. -/
def leadingPower (a : Magnitude) : Int :=
  let numerator := a.numerator
  let denominator := a.denominator
  if denominator ≤ numerator then digitCount (numerator / denominator) - 1
  else -(digitCount ((denominator - 1) / numerator) : Int)

/-- A decimal number: `digits · 10 ^ power`. -/
structure Decimal where
  /-- The digits as one number. -/
  digits : Nat
  /-- The power of ten. -/
  power : Int
  deriving DecidableEq, Repr

/-- Whether a decimal number leads back to a number: it is nearer to that than to any other, or it
lies in the middle and the mantissa is even. -/
def isWithin (a : Magnitude) (d : Decimal) : Bool :=
  let below := if a.mantissa = leastMantissa && leastExponent < a.exponent then 1 else 2
  let left := 4 * d.digits * Nat.pow 10 d.power.toNat * a.denominator
  let scale := Nat.pow 10 (-d.power).toNat <<< a.exponent.toNat
  let low := (4 * a.mantissa - below) * scale
  let high := (4 * a.mantissa + 2) * scale
  if a.mantissa % 2 = 0 then low ≤ left && left ≤ high else low < left && left < high

/-- The two decimal numbers with the given last power around a number, the nearer one first; of two
that are equally near the greater one comes first. -/
def neighbours (a : Magnitude) (power : Int) : List Decimal :=
  let numerator := a.numerator * Nat.pow 10 (-power).toNat
  let denominator := a.denominator * Nat.pow 10 power.toNat
  let floor := numerator / denominator
  let below : Decimal := ⟨floor, power⟩
  let above : Decimal := ⟨floor + 1, power⟩
  if 2 * (numerator % denominator) < denominator then [below, above] else [above, below]

/-- The shortest decimal number that leads back to a number that is not zero. -/
def shortest (a : Magnitude) : Decimal :=
  let lead := a.leadingPower
  let candidates := (List.range 17).flatMap fun (count : Nat) => a.neighbours (lead - count)
  (candidates.find? a.isWithin).getD ⟨0, 0⟩

/-- The digits of a fraction without zeros at the end. -/
def withoutFinalZeros (digits : List Char) : List Char :=
  (digits.reverse.dropWhile (· == '0')).reverse

/-- A decimal number without an exponent. -/
def Decimal.text (d : Decimal) : String :=
  let digits := Nat.toDigits 10 d.digits
  if 0 ≤ d.power then String.ofList (digits ++ List.replicate d.power.toNat '0')
  else
    let places := d.power.natAbs
    let padded := List.replicate (places + 1 - digits.length) '0' ++ digits
    let whole := padded.take (padded.length - places)
    let fraction := withoutFinalZeros (padded.drop (padded.length - places))
    String.ofList (whole ++ if fraction.isEmpty then [] else '.' :: fraction)

end Magnitude

/-- The shortest text that leads back to a number. -/
def Binary64.text (a : Binary64) : String :=
  (if a.isNegative then "-" else "") ++
    (if a.magnitude.mantissa = 0 then "0" else a.magnitude.shortest.text)

end ReleaseStaging
