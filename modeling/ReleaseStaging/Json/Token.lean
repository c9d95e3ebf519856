import ReleaseStaging.Json.Value
import ReleaseStaging.Text.Hexadecimal
import ReleaseStaging.Text.Scan

/-!
# The words of a document in JSON

A document is a sequence of marks, words, numbers and strings, with white space between them where
one likes.
Main statement: reading a word uses at least one character.
-/

namespace ReleaseStaging.Json

/-- A word of a document. -/
inductive Token where
  /-- One of the marks that hold a document together. -/
  | mark (c : Char)
  /-- A word that is a value of its own: `null` or a truth value. -/
  | word (value : Option Bool)
  /-- A number. -/
  | number (number : Number)
  /-- A string, as it is written between its quotes. -/
  | string (literal : List Char)
  deriving DecidableEq, Repr

/-- White space between words. -/
def isSpace (c : Char) : Bool :=
  c == ' ' || c == '\n' || c == '\t' || c == '\r'

/-- The marks. -/
def isMark (c : Char) : Bool :=
  ['{', '}', '[', ']', ',', ':'].contains c

/-! ## Strings -/

/-- The characters that may follow a backslash alone. -/
def isEscapable (c : Char) : Bool :=
  ['"', '\\', '/', 'b', 'f', 'n', 'r', 't'].contains c

/-- A hexadecimal digit. -/
def isHexDigit (c : Char) : Bool :=
  (Text.hexDigit? c).isSome

/-- The characters of a string up to its closing quote, and what follows it. -/
def literal? : List Char → Option (List Char × List Char)
  | [] => none
  | '"' :: rest => some ([], rest)
  | '\\' :: 'u' :: a :: b :: c :: d :: rest =>
    if [a, b, c, d].all isHexDigit then
      (literal? rest).map fun (literal, rest) => ('\\' :: 'u' :: a :: b :: c :: d :: literal, rest)
    else none
  | '\\' :: c :: rest =>
    if isEscapable c then (literal? rest).map fun (literal, rest) => ('\\' :: c :: literal, rest)
    else none
  | c :: rest =>
    if c.toNat < 32 || c == '\\' then none
    else (literal? rest).map fun (literal, rest) => (c :: literal, rest)

/-! ## Numbers -/

/-- The digits at the start, at least one, and what follows them. -/
def digits? (text : List Char) : Option (List Char × List Char) :=
  let digits := text.takeWhile Char.isDigit
  if digits.isEmpty then none else some (digits, text.dropWhile Char.isDigit)

/-- The digits before the point: a zero stands alone. -/
def whole? (text : List Char) : Option (List Char × List Char) :=
  match digits? text with
  | some ('0' :: _ :: _, _) => none
  | other => other

/-- The digits after a point, if there is one. -/
def fraction? (text : List Char) : Option (List Char × List Char) :=
  match text with
  | '.' :: rest => digits? rest
  | _ => some ([], text)

/-- The exponent, if there is one. -/
def exponent? (text : List Char) : Option (Option Exponent × List Char) :=
  let signed := fun rest : List Char => match rest with
    | '+' :: rest => (digits? rest).map fun (digits, rest) => (some ⟨false, digits⟩, rest)
    | '-' :: rest => (digits? rest).map fun (digits, rest) => (some ⟨true, digits⟩, rest)
    | _ => (digits? rest).map fun (digits, rest) => (some ⟨false, digits⟩, rest)
  match text with
  | 'e' :: rest => signed rest
  | 'E' :: rest => signed rest
  | _ => some (none, text)

/-- The number at the start, and what follows it. -/
def number? (text : List Char) : Option (Number × List Char) := do
  let (isNegative, rest) := match text with
    | '-' :: rest => (true, rest)
    | _ => (false, text)
  let (whole, rest) ← whole? rest
  let (fraction, rest) ← fraction? rest
  let (exponent, rest) ← exponent? rest
  return (⟨isNegative, whole, fraction, exponent⟩, rest)

/-! ## Words -/

/-- The words that are values, with what they stand for. -/
def words : List (List Char × Option Bool) :=
  [("null".toList, none), ("true".toList, some true), ("false".toList, some false)]

/-- The value that a word at the start stands for, and what follows the word. -/
def word? (text : List Char) : Option (Option Bool × List Char) :=
  words.findSome? fun (word, value) => (Text.after? word text).map fun rest => (value, rest)

/-- The word at the start of some characters that do not start with white space. -/
def Token.next? (text : List Char) : Option (Token × List Char) :=
  match text with
  | [] => none
  | '"' :: rest => (literal? rest).map fun (literal, rest) => (.string literal, rest)
  | c :: rest =>
    if isMark c then some (.mark c, rest)
    else match word? text with
      | some (value, rest) => some (.word value, rest)
      | none => (number? text).map fun (value, rest) => (.number value, rest)

/-! ## Progress -/

theorem length_lt_of_literal? {text literal rest : List Char}
    (h : literal? text = some (literal, rest)) : rest.length < text.length := by
  fun_induction literal? text generalizing literal with
  | case1 => simp at h
  | case2 => simp_all
  | case3 a b c d tail hall ih =>
    obtain ⟨⟨l, r⟩, hr, heq⟩ := Option.map_eq_some_iff.mp h
    have hrest : r = rest := by simpa using (congrArg Prod.snd heq)
    have := ih (hrest ▸ hr)
    simp only [List.length_cons]
    omega
  | case4 => simp at h
  | case5 c tail _ _ ih =>
    obtain ⟨⟨l, r⟩, hr, heq⟩ := Option.map_eq_some_iff.mp h
    have hrest : r = rest := by simpa using (congrArg Prod.snd heq)
    have := ih (hrest ▸ hr)
    simp only [List.length_cons]
    omega
  | case6 => simp at h
  | case7 => simp at h
  | case8 c tail _ _ _ _ ih =>
    obtain ⟨⟨l, r⟩, hr, heq⟩ := Option.map_eq_some_iff.mp h
    have hrest : r = rest := by simpa using (congrArg Prod.snd heq)
    have := ih (hrest ▸ hr)
    simp only [List.length_cons]
    omega

theorem length_lt_of_digits? {text digits rest : List Char}
    (h : digits? text = some (digits, rest)) : rest.length < text.length := by
  simp only [digits?] at h
  split at h
  · simp at h
  · next hne =>
    obtain ⟨_, rfl⟩ : _ ∧ text.dropWhile Char.isDigit = rest := by simpa using h
    exact Text.length_dropWhile_lt (by simpa using hne)

theorem length_lt_of_whole? {text digits rest : List Char}
    (h : whole? text = some (digits, rest)) : rest.length < text.length := by
  simp only [whole?] at h
  split at h
  · simp at h
  · exact length_lt_of_digits? h

theorem length_le_of_fraction? {text digits rest : List Char}
    (h : fraction? text = some (digits, rest)) : rest.length ≤ text.length := by
  simp only [fraction?] at h
  split at h
  · have := length_lt_of_digits? h
    simp only [List.length_cons]
    omega
  · simp_all

theorem length_le_of_exponent? {text rest : List Char} {exponent : Option Exponent}
    (h : exponent? text = some (exponent, rest)) : rest.length ≤ text.length := by
  have signed : ∀ {text rest : List Char} {value : Option Exponent} {isNegative : Bool},
      ((digits? text).map fun (digits, rest) => (some (Exponent.mk isNegative digits), rest)) =
        some (value, rest) → rest.length < text.length := by
    intro text rest value isNegative h
    obtain ⟨⟨digits, r⟩, hr, heq⟩ := Option.map_eq_some_iff.mp h
    have hrest : r = rest := by simpa using (congrArg Prod.snd heq)
    exact length_lt_of_digits? (hrest ▸ hr)
  simp only [exponent?] at h
  split at h
  · split at h
    all_goals
      have := signed h
      simp only [List.length_cons]
      omega
  · split at h
    all_goals
      have := signed h
      simp only [List.length_cons]
      omega
  · simp_all

theorem length_lt_of_number? {text rest : List Char} {number : Number}
    (h : number? text = some (number, rest)) : rest.length < text.length := by
  simp only [number?, Option.bind_eq_bind, Option.bind_eq_some_iff, Option.pure_def,
    Option.some.injEq, Prod.mk.injEq, Prod.exists] at h
  obtain ⟨whole, r1, h1, fraction, r2, h2, exponent, r3, h3, _, rfl⟩ := h
  have := length_lt_of_whole? h1
  have := length_le_of_fraction? h2
  have := length_le_of_exponent? h3
  have : (match text with
    | '-' :: rest => (true, rest)
    | x => (false, text)).2.length ≤ text.length := by
    split <;> simp
  omega

theorem length_lt_of_word? {text rest : List Char} {value : Option Bool}
    (h : word? text = some (value, rest)) : rest.length < text.length := by
  obtain ⟨⟨word, v⟩, hmem, hfound⟩ := List.exists_of_findSome?_eq_some h
  obtain ⟨r, hr, heq⟩ := Option.map_eq_some_iff.mp hfound
  obtain ⟨_, rfl⟩ : v = value ∧ r = rest := by simpa using heq
  have hpos : 0 < word.length := by
    simp only [words, List.mem_cons, Prod.mk.injEq, List.not_mem_nil, or_false] at hmem
    rcases hmem with ⟨rfl, _⟩ | ⟨rfl, _⟩ | ⟨rfl, _⟩ <;> decide
  have := Text.length_of_after? hr
  omega

/-- Reading a word uses at least one character. -/
theorem Token.length_lt_of_next? {text rest : List Char} {token : Token}
    (h : Token.next? text = some (token, rest)) : rest.length < text.length := by
  simp only [Token.next?] at h
  split at h
  · simp at h
  · obtain ⟨⟨literal, r⟩, hr, heq⟩ := Option.map_eq_some_iff.mp h
    have hrest : r = rest := by simpa using (congrArg Prod.snd heq)
    have := length_lt_of_literal? (hrest ▸ hr)
    simp only [List.length_cons]
    omega
  · split at h
    · obtain ⟨_, rfl⟩ : _ ∧ _ = rest := by simpa using h
      simp
    · split at h
      · next hword =>
        obtain ⟨_, rfl⟩ : _ ∧ _ = rest := by simpa using h
        exact length_lt_of_word? hword
      · obtain ⟨⟨number, r⟩, hr, heq⟩ := Option.map_eq_some_iff.mp h
        have hrest : r = rest := by simpa using (congrArg Prod.snd heq)
        exact length_lt_of_number? (hrest ▸ hr)

/-- The words of a text, if it consists of words and white space between them. -/
def tokens? (text : List Char) : Option (List Token) :=
  match _h : text.dropWhile isSpace with
  | [] => some []
  | c :: cs =>
    match _h' : Token.next? (c :: cs) with
    | none => none
    | some (token, rest) => (tokens? rest).map (token :: ·)
termination_by text.length
decreasing_by
  have := Token.length_lt_of_next? _h'
  have := Text.length_dropWhile_le isSpace text
  rw [_h] at this
  omega

end ReleaseStaging.Json
