import ReleaseStaging.Json.Token

/-!
# The grammar of JSON

Which texts write a document, whatever reads them: white space may stand around every value, every
name and every mark, a number may be written with either letter before its exponent and with a plus
sign after it, and a string stands between its quotes as the document keeps it.
-/

namespace ReleaseStaging.Json

/-- White space, perhaps none. -/
def IsGap (text : List Char) : Prop :=
  ∀ c ∈ text, isSpace c = true

instance (text : List Char) : Decidable (IsGap text) :=
  inferInstanceAs (Decidable (∀ c ∈ text, isSpace c = true))

theorem isGap_nil : IsGap [] :=
  List.forall_mem_nil _

/-- What may stand between the quotes of a string. -/
inductive IsLiteral : List Char → Prop where
  /-- Nothing. -/
  | nil : IsLiteral []
  /-- A character that stands for itself. -/
  | plain {c : Char} {rest : List Char} (hcontrol : 32 ≤ c.toNat) (hquote : c ≠ '"')
      (hbackslash : c ≠ '\\') (hrest : IsLiteral rest) : IsLiteral (c :: rest)
  /-- A character behind a backslash. -/
  | escaped {c : Char} {rest : List Char} (hc : isEscapable c = true) (hrest : IsLiteral rest) :
      IsLiteral ('\\' :: c :: rest)
  /-- Four digits behind a backslash. -/
  | unit {a b c d : Char} {rest : List Char} (hdigits : ∀ digit ∈ [a, b, c, d], isHexDigit digit)
      (hrest : IsLiteral rest) : IsLiteral ('\\' :: 'u' :: a :: b :: c :: d :: rest)

/-! ## Numbers -/

/-- One or more digits. -/
def IsDigits (text : List Char) : Prop :=
  text ≠ [] ∧ ∀ c ∈ text, c.isDigit = true

/-- Whether a text writes an exponent. -/
inductive Exponent.IsWritten : Exponent → List Char → Prop where
  /-- It is above zero, without a sign. -/
  | unsigned {letter : Char} {digits : List Char} (hletter : letter = 'e' ∨ letter = 'E')
      (hdigits : IsDigits digits) : IsWritten ⟨false, digits⟩ (letter :: digits)
  /-- It has a sign. -/
  | signed {letter : Char} {digits : List Char} (hletter : letter = 'e' ∨ letter = 'E')
      (isNegative : Bool) (hdigits : IsDigits digits) :
      IsWritten ⟨isNegative, digits⟩ (letter :: (if isNegative then '-' else '+') :: digits)

/-- Whether a text writes what may follow the point or the digits before it. -/
inductive Number.IsEnding : Option Exponent → List Char → Prop where
  /-- There is no exponent. -/
  | none : IsEnding none []
  /-- There is one. -/
  | some {exponent : Exponent} {text : List Char} (h : exponent.IsWritten text) :
      IsEnding (some exponent) text

/-- Whether a text writes a number. -/
structure Number.IsWritten (number : Number) (text : List Char) : Prop where
  /-- There are digits before the point. -/
  whole : IsDigits number.whole
  /-- A zero stands there alone. -/
  zero : number.whole.head? = some '0' → number.whole = ['0']
  /-- There are digits behind the point, if there is one. -/
  fraction : ∀ c ∈ number.fraction, c.isDigit = true
  /-- Sign, digits, point, digits and exponent make the text. -/
  text : ∃ ending, IsEnding number.exponent ending ∧
    text = (if number.isNegative then ['-'] else []) ++ number.whole ++
      (if number.fraction = [] then [] else '.' :: number.fraction) ++ ending

/-! ## Documents -/

mutual

/-- Whether a text writes a document, without white space around it. -/
inductive Spells : Json → List Char → Prop where
  /-- The value `null`. -/
  | null : Spells .null ['n', 'u', 'l', 'l']
  /-- The one truth value. -/
  | true : Spells (.bool true) ['t', 'r', 'u', 'e']
  /-- The other one. -/
  | false : Spells (.bool false) ['f', 'a', 'l', 's', 'e']
  /-- A number. -/
  | number {number : Number} {text : List Char} (h : number.IsWritten text) :
      Spells (.number number) text
  /-- A string. -/
  | string {literal : List Char} (h : IsLiteral literal) :
      Spells (.string literal) (quotedLiteral literal)
  /-- The empty list. -/
  | emptyArray {gap : List Char} (h : IsGap gap) : Spells (.array []) ('[' :: gap ++ [']'])
  /-- A list of one value or more. -/
  | array {items : List Json} {text : List Char} (h : SpellsItems items text) :
      Spells (.array items) ('[' :: text ++ [']'])
  /-- The empty object. -/
  | emptyObject {gap : List Char} (h : IsGap gap) : Spells (.object []) ('{' :: gap ++ ['}'])
  /-- An object of one member or more. -/
  | object {members : List (List Char × Json)} {text : List Char} (h : SpellsMembers members text) :
      Spells (.object members) ('{' :: text ++ ['}'])

/-- Whether a text writes a document, with white space around it where one likes. -/
inductive SpellsPadded : Json → List Char → Prop where
  /-- The white space before the document and after it. -/
  | intro {document : Json} {before text after : List Char} (hbefore : IsGap before)
      (h : Spells document text) (hafter : IsGap after) :
      SpellsPadded document (before ++ text ++ after)

/-- Whether a text writes one value or more, with commas between them. -/
inductive SpellsItems : List Json → List Char → Prop where
  /-- The last value. -/
  | last {item : Json} {text : List Char} (h : SpellsPadded item text) : SpellsItems [item] text
  /-- A value with others behind it. -/
  | cons {item : Json} {items : List Json} {text others : List Char} (h : SpellsPadded item text)
      (hitems : SpellsItems items others) : SpellsItems (item :: items) (text ++ ',' :: others)

/-- Whether a text writes a member: its name, a colon and its value. -/
inductive SpellsMember : List Char × Json → List Char → Prop where
  /-- The white space before the name and after it. -/
  | intro {name : List Char} {value : Json} {before after text : List Char}
      (hbefore : IsGap before) (hname : IsLiteral name) (hafter : IsGap after)
      (h : SpellsPadded value text) :
      SpellsMember (name, value) (before ++ quotedLiteral name ++ after ++ ':' :: text)

/-- Whether a text writes one member or more, with commas between them. -/
inductive SpellsMembers : List (List Char × Json) → List Char → Prop where
  /-- The last member. -/
  | last {member : List Char × Json} {text : List Char} (h : SpellsMember member text) :
      SpellsMembers [member] text
  /-- A member with others behind it. -/
  | cons {member : List Char × Json} {members : List (List Char × Json)} {text others : List Char}
      (h : SpellsMember member text) (hmembers : SpellsMembers members others) :
      SpellsMembers (member :: members) (text ++ ',' :: others)

end

/-- Whether a text holds a document, and nothing else but white space. -/
def IsTextOf (document : Json) (text : String) : Prop :=
  SpellsPadded document text.toList

end ReleaseStaging.Json
