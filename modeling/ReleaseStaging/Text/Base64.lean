/-!
# Base 64

Bytes written in 64 visible characters: three bytes as four characters, with `=` in the place of
what is missing at the end.
-/

namespace ReleaseStaging.Text.Base64

/-- The 64 characters in the order of their values. -/
def alphabet : List Char :=
  "ABCDEFGHIJKLMNOPQRSTUVWXYZabcdefghijklmnopqrstuvwxyz0123456789+/".toList

/-- The character of a value below 64. -/
def digit (value : Nat) : Char :=
  alphabet.getD value '='

/-- The four characters of a group of three bytes, given as one number. -/
def group (value : Nat) : List Char :=
  [digit (value / 0x40000 % 64), digit (value / 0x1000 % 64), digit (value / 0x40 % 64),
    digit (value % 64)]

/-- The characters of a sequence of bytes. -/
def encode : List UInt8 → List Char
  | [] => []
  | [a] => (group (0x10000 * a.toNat)).take 2 ++ ['=', '=']
  | [a, b] => (group (0x10000 * a.toNat + 0x100 * b.toNat)).take 3 ++ ['=']
  | a :: b :: c :: rest =>
    group (0x10000 * a.toNat + 0x100 * b.toNat + c.toNat) ++ encode rest

end ReleaseStaging.Text.Base64
