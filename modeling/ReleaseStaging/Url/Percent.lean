import ReleaseStaging.Text.Hexadecimal

/-!
# Percent-encoding

In an address a character that has a meaning of its own there, or none at all, is written as its
UTF-8 bytes, each a percent sign and two hexadecimal digits. Which characters these are depends on
the part of the address.
-/

namespace ReleaseStaging.Url

/-- A byte as a percent sign and two digits. -/
def percentByte (byte : UInt8) : List Char :=
  ['%', Text.upperHexDigit (byte.toNat / 16), Text.upperHexDigit (byte.toNat % 16)]

/-- A character as it stands in a part of an address in which the reserved characters are
encoded; characters beyond ASCII always are. -/
def encodeChar (reserved : Char → Bool) (c : Char) : List Char :=
  if c.toNat < 128 && !reserved c then [c] else (String.utf8EncodeChar c).flatMap percentByte

/-- A text as it stands in a part of an address. -/
def encode (reserved : Char → Bool) (text : List Char) : List Char :=
  text.flatMap (encodeChar reserved)

/-- The bytes that a part of an address stands for; a percent sign without two digits stands for
itself. -/
def decode : List Char → List UInt8
  | [] => []
  | [c] => String.utf8EncodeChar c
  | [c, d] => String.utf8EncodeChar c ++ String.utf8EncodeChar d
  | c :: d :: e :: text =>
    match c == '%', Text.hexDigit? d, Text.hexDigit? e with
    | true, some high, some low => (16 * high + low).toUInt8 :: decode text
    | _, _, _ => String.utf8EncodeChar c ++ decode (d :: e :: text)

/-! ## Reserved characters -/

/-- Control characters. -/
def isControl (c : Char) : Bool :=
  c.toNat < 0x20 || c.toNat = 0x7F

/-- The characters encoded in a fragment. -/
def inFragment (c : Char) : Bool :=
  isControl c || c = ' ' || c = '"' || c = '<' || c = '>' || c = '`'

/-- The characters encoded in the path of an address that is read. -/
def inPath (c : Char) : Bool :=
  inFragment c || c = '#' || c = '?' || c = '{' || c = '}'

/-- The characters encoded in a segment that is added to a path; a backslash is one of them where
it would separate segments. -/
def inSegment (isSpecial : Bool) (c : Char) : Bool :=
  inPath c || c = '/' || c = '%' || (isSpecial && c = '\\')

/-- The characters encoded in a user name and in a password. -/
def inCredentials (c : Char) : Bool :=
  inPath c || c = '/' || c = ':' || c = ';' || c = '=' || c = '@' || c = '[' || c = '\\' ||
    c = ']' || c = '^' || c = '|'

/-- The characters encoded in a query. -/
def inQuery (isSpecial : Bool) (c : Char) : Bool :=
  isControl c || c = ' ' || c = '"' || c = '#' || c = '<' || c = '>' || (isSpecial && c = '\'')

end ReleaseStaging.Url
