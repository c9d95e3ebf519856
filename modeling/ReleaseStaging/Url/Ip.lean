import ReleaseStaging.Text.Fields
import ReleaseStaging.Text.Number
import ReleaseStaging.Url.Percent

/-!
# Internet addresses

The host of an address may be a number: four bytes, in any of the old notations, or eight groups
of 16 bits.
-/

namespace ReleaseStaging.Url

/-! ## Four bytes -/

/-- The value of digits of a base up to 16, most significant first, if all of them are digits of
that base. -/
def digitsValue? (base : Nat) (digits : List Char) : Option Nat :=
  digits.foldlM (fun value c =>
    match Text.hexDigit? c with
    | some digit => if digit < base then some (base * value + digit) else none
    | none => none) 0

/-- The value of a part of an address: hexadecimal after `0x`, octal after `0`, else decimal. -/
def ipv4Part? (part : List Char) : Option Nat :=
  match part with
  | [] => none
  | '0' :: 'x' :: digits => digitsValue? 16 digits
  | '0' :: 'X' :: digits => digitsValue? 16 digits
  | '0' :: c :: digits => digitsValue? 8 (c :: digits)
  | digits => digitsValue? 10 digits

/-- The parts between the dots of a name, without the empty one after a final dot. -/
def dotted (name : List Char) : List (List Char) :=
  let parts := Text.fields '.' name
  if parts.getLast? = some [] then parts.dropLast else parts

/-- Whether the last part of a name is a number, so that the name must be an address. -/
def endsInNumber (name : List Char) : Bool :=
  match (dotted name).getLast? with
  | none => false
  | some last => (!last.isEmpty && last.all Char.isDigit) || (ipv4Part? last).isSome

/-- The address with the given parts: each but the last one is a byte, and the last one fills the
bytes that are left. -/
def ipv4OfParts? (parts : List Nat) : Option Nat :=
  match parts.getLast? with
  | none => none
  | some last =>
    let leading := parts.dropLast
    let room := 1 <<< (8 * (4 - leading.length))
    if 4 < parts.length || leading.any (255 < ·) || room ≤ last then none
    else some (leading.foldl (fun value byte => 256 * value + byte) 0 * room + last)

/-- The address of four bytes that a name stands for. -/
def ipv4? (name : List Char) : Option Nat :=
  ((dotted name).mapM ipv4Part?).bind ipv4OfParts?

/-- An address of four bytes in its usual notation. -/
def ipv4Text (address : Nat) : String :=
  ".".intercalate
    [toString (address / 0x1000000 % 256), toString (address / 0x10000 % 256),
      toString (address / 0x100 % 256), toString (address % 256)]

/-! ## Eight groups -/

/-- A group of up to four hexadecimal digits. -/
def ipv6Group? (digits : List Char) : Option Nat :=
  if digits.isEmpty || 4 < digits.length then none else digitsValue? 16 digits

/-- A byte in decimal digits without zeros in front. -/
def plainByte? (digits : List Char) : Option Nat :=
  if digits.length ≤ 3 && (digits.length = 1 || digits.head? != some '0') then
    (Text.natural? digits).filter (· < 256)
  else none

/-- The two groups that four bytes in decimal notation stand for. -/
def ipv6Tail? (text : List Char) : Option (List Nat) :=
  match (Text.fields '.' text).mapM plainByte? with
  | some [a, b, c, d] => some [256 * a + b, 256 * c + d]
  | _ => none

/-- The groups between colons; the last one may be four bytes in decimal notation. -/
def ipv6Groups? : List (List Char) → Option (List Nat)
  | [] => some []
  | [last] => if last.contains '.' then ipv6Tail? last else (ipv6Group? last).map ([·])
  | group :: groups => do return (← ipv6Group? group) :: (← ipv6Groups? groups)

/-- The groups on one side of the gap; a side without characters has none. -/
def ipv6Side? (text : List Char) : Option (List Nat) :=
  if text.isEmpty then some [] else ipv6Groups? (Text.fields ':' text)

/-- The characters before and after the first double colon. -/
def splitGap : List Char → Option (List Char × List Char)
  | ':' :: ':' :: rest => some ([], rest)
  | c :: rest => (splitGap rest).map fun (before, after) => (c :: before, after)
  | [] => none

/-- The address of eight groups that a text in brackets stands for; a double colon stands for as
many zero groups as are missing, at least one. -/
def ipv6? (text : List Char) : Option (List Nat) := do
  match splitGap text with
  | none =>
    let groups ← ipv6Groups? (Text.fields ':' text)
    if groups.length = 8 then some groups else none
  | some (before, after) =>
    let left ← if before.contains '.' then none else ipv6Side? before
    let right ← ipv6Side? after
    let missing := 8 - (left.length + right.length)
    if 0 < missing then some (left ++ List.replicate missing 0 ++ right) else none

/-- The length of the run of zero groups at the start. -/
def zeroRun (groups : List Nat) : Nat :=
  (groups.takeWhile (· == 0)).length

/-- The position and length of the first longest run of zero groups. -/
def longestZeroRun (groups : List Nat) : Nat × Nat :=
  (List.range groups.length).foldl (fun best i =>
    let run := zeroRun (groups.drop i)
    if best.2 < run then (i, run) else best) (0, 0)

/-- An address of eight groups in its shortest notation: the first longest run of two zero groups
or more is a double colon. -/
def ipv6Text (groups : List Nat) : String :=
  let (start, length) := longestZeroRun groups
  let shown := fun part : List Nat => ":".intercalate (part.map Text.lowerHex)
  if length < 2 then shown groups
  else shown (groups.take start) ++ "::" ++ shown (groups.drop (start + length))

end ReleaseStaging.Url
