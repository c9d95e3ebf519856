import ReleaseStaging.Binary64.Basic
import ReleaseStaging.Json.Value

/-!
# Numbers with a fraction

The digits of a number are taken as one whole number of 64 bits and a power of ten; digits that do
not fit any more only count. The whole number is then scaled by the power, so a number with many
digits may be off by the last bit.
-/

namespace ReleaseStaging.Json

/-- Takes digits into a whole number as long as it stays below 64 bits; the digits from the first
one on that does not fit are left. -/
def absorb : Nat → List Char → Nat × List Char
  | value, [] => (value, [])
  | value, c :: digits =>
    let next := 10 * value + Text.digitValue c
    if next < UInt64.size then absorb next digits else (value, c :: digits)

/-- The whole number that the digits make, and the power of ten that goes with it. -/
def Number.scaled (number : Number) : Nat × Int :=
  let (whole, excess) := absorb 0 number.whole
  let (digits, rest) := absorb whole number.fraction
  (digits, excess.length - (number.fraction.length - rest.length : Nat))

/-- The magnitude of a number, unless it is beyond all finite ones. -/
def Number.toMagnitude? (number : Number) : Option Magnitude :=
  let (digits, power) := number.scaled
  let scaledBy := fun power : Int =>
    (Magnitude.ofRatio? digits 1).bind fun significand => significand.scale? power
  match number.exponent with
  | none => scaledBy power
  | some exponent =>
    let value := Text.decimalValue exponent.digits
    if value < Int32.size / 2 then
      scaledBy (if exponent.isNegative then power - value else power + value)
    else if digits != 0 && !exponent.isNegative then none
    else Magnitude.ofRatio? 0 1

/-- The fraction that a number stands for, unless it is beyond all finite ones. -/
def Number.toBinary64? (number : Number) : Option Binary64 :=
  number.toMagnitude?.map fun magnitude => ⟨number.isNegative, magnitude⟩

end ReleaseStaging.Json
