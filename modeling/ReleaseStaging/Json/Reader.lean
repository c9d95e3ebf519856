import ReleaseStaging.Json.Token

/-!
# Reading a document in JSON

The words of a document are put together: lists in brackets and objects in braces hold values
separated by commas, to any depth. A document is one value and nothing else.
-/

namespace ReleaseStaging.Json

mutual

/-- The value at the start of some words, and the words after it; `n` bounds the number of steps. -/
def value? (n : Nat) (tokens : List Token) : Option (Json × List Token) :=
  match n, tokens with
  | 0, _ => none
  | _ + 1, .word none :: rest => some (.null, rest)
  | _ + 1, .word (some value) :: rest => some (.bool value, rest)
  | _ + 1, .number value :: rest => some (.number value, rest)
  | _ + 1, .string literal :: rest => some (.string literal, rest)
  | _ + 1, .mark '[' :: .mark ']' :: rest => some (.array [], rest)
  | n + 1, .mark '[' :: rest => (items? n rest).map fun read => (.array read.1, read.2)
  | _ + 1, .mark '{' :: .mark '}' :: rest => some (.object [], rest)
  | n + 1, .mark '{' :: rest => (members? n rest).map fun read => (.object read.1, read.2)
  | _ + 1, _ => none

/-- The values of a list up to its closing bracket, and the words after it. -/
def items? (n : Nat) (tokens : List Token) : Option (List Json × List Token) :=
  match n with
  | 0 => none
  | n + 1 =>
    match value? n tokens with
    | some (item, .mark ']' :: rest) => some ([item], rest)
    | some (item, .mark ',' :: rest) =>
      (items? n rest).map fun read => (item :: read.1, read.2)
    | _ => none

/-- The members of an object up to its closing brace, and the words after it. -/
def members? (n : Nat) (tokens : List Token) : Option (List (List Char × Json) × List Token) :=
  match n, tokens with
  | n + 1, .string name :: .mark ':' :: rest =>
    match value? n rest with
    | some (value, .mark '}' :: rest) => some ([(name, value)], rest)
    | some (value, .mark ',' :: rest) =>
      (members? n rest).map fun read => ((name, value) :: read.1, read.2)
    | _ => none
  | _, _ => none

end

/-- A number of steps that is enough to read a value from some words: two for each of them. -/
def stepsFor (tokens : List Token) : Nat :=
  2 * tokens.length + 1

/-- The document that a text holds. -/
def ofString? (text : String) : Option Json :=
  match tokens? text.toList with
  | none => none
  | some tokens =>
    match value? (stepsFor tokens) tokens with
    | some (document, []) => some document
    | _ => none

/-! ## What a string stands for -/

/-- The first half of a pair that stands for one character. -/
def isHighHalf (n : Nat) : Bool :=
  0xD800 ≤ n && n < 0xDC00

/-- The second half of a pair that stands for one character. -/
def isLowHalf (n : Nat) : Bool :=
  0xDC00 ≤ n && n < 0xE000

/-- The character that a backslash and another character stand for. -/
def unescaped (c : Char) : Char :=
  match c with
  | 'b' => '\x08'
  | 'f' => '\x0c'
  | 'n' => '\n'
  | 'r' => '\r'
  | 't' => '\t'
  | _ => c

/-- The characters that a string stands for, unless it holds half a pair. -/
def unescape? : List Char → Option (List Char)
  | [] => some []
  | '\\' :: 'u' :: a :: b :: c :: d :: '\\' :: 'u' :: e :: f :: g :: h :: rest =>
    let first := Text.hexValue [a, b, c, d]
    let second := Text.hexValue [e, f, g, h]
    if isHighHalf first && isLowHalf second then
      (unescape? rest).map
        (Char.ofNat (0x10000 + (first - 0xD800) * 0x400 + (second - 0xDC00)) :: ·)
    else if isHighHalf first || isLowHalf first then none
    else (unescape? ('\\' :: 'u' :: e :: f :: g :: h :: rest)).map (Char.ofNat first :: ·)
  | '\\' :: 'u' :: a :: b :: c :: d :: rest =>
    let first := Text.hexValue [a, b, c, d]
    if isHighHalf first || isLowHalf first then none
    else (unescape? rest).map (Char.ofNat first :: ·)
  | '\\' :: c :: rest => (unescape? rest).map (unescaped c :: ·)
  | c :: rest => (unescape? rest).map (c :: ·)

/-- The text that a string stands for. -/
def text? : Json → Option String
  | string literal => (unescape? literal).map String.ofList
  | _ => none

end ReleaseStaging.Json
