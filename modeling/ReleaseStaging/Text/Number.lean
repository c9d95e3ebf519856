/-!
# Numbers written in ASCII digits

Reading whole numbers from characters: a run of digits has the value of its decimal reading, a
sign may stand before it, and a number outside the given bounds is refused.
Main statements: appending a digit multiplies by ten and adds it, and the digits of a number have
its value.
-/

namespace ReleaseStaging.Text

/-- The value of an ASCII digit. -/
def digitValue (c : Char) : Nat :=
  c.toNat - '0'.toNat

/-- The decimal value of a run of ASCII digits, most significant first. -/
def decimalValue (digits : List Char) : Nat :=
  digits.foldl (fun value c => 10 * value + digitValue c) 0

@[simp] theorem decimalValue_nil : decimalValue [] = 0 := rfl

/-- A digit at the end multiplies the value before it by ten. -/
theorem decimalValue_concat (digits : List Char) (c : Char) :
    decimalValue (digits ++ [c]) = 10 * decimalValue digits + digitValue c := by
  simp [decimalValue]

/-- The decimal digits of a number have its value. -/
theorem decimalValue_toDigits (n : Nat) : decimalValue (Nat.toDigits 10 n) = n := by
  calc
    decimalValue (Nat.toDigits 10 n) = Nat.ofDigitChars 10 (Nat.toDigits 10 n) 0 :=
      Nat.ofDigitChars_eq_foldl.symm
    _ = n := Nat.ofDigitChars_ten_toDigits

/-- The value of a text that is a nonempty run of ASCII digits and nothing else. -/
def natural? (text : List Char) : Option Nat :=
  if text.isEmpty || !text.all Char.isDigit then none else some (decimalValue text)

/-- The value of an unsigned number below `bound`; a plus sign may stand before its digits. -/
def unsignedBelow? (bound : Nat) (text : List Char) : Option Nat :=
  let digits := match text with
    | '+' :: rest => rest
    | _ => text
  (natural? digits).filter (· < bound)

/-- The value of a number from `-bound` to `bound - 1`; either sign may stand before its digits. -/
def signedWithin? (bound : Nat) (text : List Char) : Option Int :=
  match text with
  | '-' :: rest => ((natural? rest).filter (· ≤ bound)).map fun n => -(n : Int)
  | _ => (unsignedBelow? bound text).map Int.ofNat

/-- The value of the run of ASCII digits at the start of a text, unless the run is empty or its
value does not fit into 64 bits. -/
def leadingNumber? (text : List Char) : Option Nat :=
  (natural? (text.takeWhile Char.isDigit)).filter (· < UInt64.size)

end ReleaseStaging.Text
