/-!
# Hexadecimal digits

Numbers written to the base sixteen. Digits of either case are read; which case is written depends
on the format.
Main statement: a digit that is written is read back as its value.
-/

namespace ReleaseStaging.Text

/-- The value of a digit of either case. -/
def hexDigit? (c : Char) : Option Nat :=
  if '0' ≤ c && c ≤ '9' then some (c.toNat - '0'.toNat)
  else if 'a' ≤ c && c ≤ 'f' then some (c.toNat - 'a'.toNat + 10)
  else if 'A' ≤ c && c ≤ 'F' then some (c.toNat - 'A'.toNat + 10)
  else none

/-- The value of a run of digits, most significant first. -/
def hexValue (digits : List Char) : Nat :=
  digits.foldl (fun value c => 16 * value + (hexDigit? c).getD 0) 0

/-- The upper-case digit of a value below sixteen. -/
def upperHexDigit (n : Nat) : Char :=
  "0123456789ABCDEF".toList.getD n '0'

/-- An upper-case digit has the value it was written for. -/
theorem hexDigit?_upperHexDigit : ∀ n < 16, hexDigit? (upperHexDigit n) = some n := by
  decide

/-- A number in lower-case digits. -/
def lowerHex (n : Nat) : String :=
  String.ofList (Nat.toDigits 16 n)

end ReleaseStaging.Text
