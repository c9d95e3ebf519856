import ReleaseStaging.Text.Number

/-!
# Documents in JSON

A document is kept as it is written: numbers and strings stand for themselves until someone asks
what they mean, so a document may hold numbers beyond any range and strings that are no text.
Writing a document puts no space anywhere.
-/

namespace ReleaseStaging

namespace Json

/-- The exponent of a number. -/
structure Exponent where
  /-- Whether it is written with a minus sign. -/
  isNegative : Bool
  /-- Its digits. -/
  digits : List Char
  deriving DecidableEq, Repr

/-- A number as it is written. -/
structure Number where
  /-- Whether it is written with a minus sign. -/
  isNegative : Bool
  /-- The digits before the point. -/
  whole : List Char
  /-- The digits after the point; none if there is no point. -/
  fraction : List Char
  /-- The exponent. -/
  exponent : Option Exponent
  deriving DecidableEq, Repr

/-- The text of an exponent. -/
def Exponent.text (exponent : Exponent) : List Char :=
  'e' :: ((if exponent.isNegative then ['-'] else []) ++ exponent.digits)

/-- The text of a number. -/
def Number.text (number : Number) : List Char :=
  (if number.isNegative then ['-'] else []) ++ number.whole ++
    (if number.fraction.isEmpty then [] else '.' :: number.fraction) ++
    (number.exponent.map Exponent.text).getD []

/-- The number of a natural number. -/
def Number.ofNat (n : Nat) : Number :=
  ⟨false, Nat.toDigits 10 n, [], none⟩

/-- Whether a number is written without point and exponent. -/
def Number.isWhole (number : Number) : Bool :=
  number.fraction.isEmpty && number.exponent.isNone

/-- The natural number that a number stands for if it is written without sign, point and
exponent. -/
def Number.toNat? (number : Number) : Option Nat :=
  if number.isWhole && !number.isNegative then some (Text.decimalValue number.whole) else none

end Json

/-- A document. -/
inductive Json where
  /-- The value `null`. -/
  | null
  /-- A truth value. -/
  | bool (value : Bool)
  /-- A number, as it is written. -/
  | number (number : Json.Number)
  /-- A string, as it is written between its quotes. -/
  | string (literal : List Char)
  /-- A list of values. -/
  | array (items : List Json)
  /-- Values with names, as they are written between their quotes. -/
  | object (members : List (List Char × Json))
  deriving Repr, Inhabited

namespace Json

/-! ## Strings -/

/-- Four hexadecimal digits in lower case. -/
def unitDigits (n : Nat) : List Char :=
  let digits := Nat.toDigits 16 n
  List.replicate (4 - digits.length) '0' ++ digits

/-- A character as it stands in a string. -/
def escapeChar (c : Char) : List Char :=
  match c with
  | '"' => ['\\', '"']
  | '\\' => ['\\', '\\']
  | '\x08' => ['\\', 'b']
  | '\x0c' => ['\\', 'f']
  | '\n' => ['\\', 'n']
  | '\r' => ['\\', 'r']
  | '\t' => ['\\', 't']
  | _ => if c.toNat < 32 then '\\' :: 'u' :: unitDigits c.toNat else [c]

/-- A text as it stands in a string. -/
def escape (text : String) : List Char :=
  text.toList.flatMap escapeChar

/-- The string of a text. -/
def ofText (text : String) : Json :=
  .string (escape text)

/-- The number of a natural number. -/
def ofNat (n : Nat) : Json :=
  .number (.ofNat n)

/-- The string of a text, or `null`. -/
def ofText? : Option String → Json
  | none => .null
  | some text => ofText text

/-- The object with the given members. -/
def ofMembers (members : List (String × Json)) : Json :=
  .object (members.map fun member => (escape member.1, member.2))

/-! ## Writing -/

/-- A string with its quotes. -/
def quotedLiteral (literal : List Char) : List Char :=
  '"' :: literal ++ ['"']

mutual

/-- The text of a document. -/
def chars : Json → List Char
  | null => ['n', 'u', 'l', 'l']
  | bool true => ['t', 'r', 'u', 'e']
  | bool false => ['f', 'a', 'l', 's', 'e']
  | number n => n.text
  | string literal => quotedLiteral literal
  | array items => '[' :: itemChars items ++ [']']
  | object members => '{' :: memberChars members ++ ['}']

/-- The text between the brackets of a list. -/
def itemChars : List Json → List Char
  | [] => []
  | [item] => item.chars
  | item :: items => item.chars ++ ',' :: itemChars items

/-- The text between the braces of an object. -/
def memberChars : List (List Char × Json) → List Char
  | [] => []
  | [(name, value)] => quotedLiteral name ++ ':' :: value.chars
  | (name, value) :: members =>
    quotedLiteral name ++ ':' :: value.chars ++ ',' :: memberChars members

end

/-- The text of a document. -/
def text (document : Json) : String :=
  String.ofList document.chars

end Json

end ReleaseStaging
