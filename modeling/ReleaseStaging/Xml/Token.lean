import ReleaseStaging.Text.Fields
import ReleaseStaging.Text.Scan
import ReleaseStaging.Xml.Letter

/-!
# Markup

A document is a sequence of tags, character data, quoted character data, comments and processing
instructions. `Token.next?` cuts one of them off, `Token.ofChars?` cuts a whole text into them.
References in character data and in attribute values are left as they stand; `Xml.Reference`
resolves them.
Main statements: a token that is cut off leaves fewer characters, so the cutting ends.
-/

namespace ReleaseStaging.Xml

/-- A name with the namespace prefix before its colon; the prefix of a name without a colon is
empty. -/
structure QName where
  /-- The characters before the colon. -/
  label : List Char
  /-- The characters after the colon. -/
  localPart : List Char
  deriving DecidableEq, Repr

/-- An attribute as it is written. -/
structure Attribute where
  /-- The name with its prefix. -/
  name : QName
  /-- The characters between the quotes. -/
  value : List Char
  deriving DecidableEq, Repr

/-- A piece of markup. -/
inductive Token where
  /-- A start tag, or the tag of an element without content. -/
  | startTag (name : QName) (attributes : List Attribute) (isEmpty : Bool)
  /-- An end tag. -/
  | endTag (name : QName)
  /-- Character data as written. -/
  | text (raw : List Char)
  /-- The characters of a quoted section. -/
  | quotation (content : List Char)
  /-- The characters of a comment. -/
  | comment (content : List Char)
  /-- A processing instruction. -/
  | instruction (target content : List Char)
  deriving DecidableEq, Repr

/-- The name at the start of the characters: at most one colon, and both sides of it start as a
name does; an empty prefix stands for none. -/
def QName.next? (text : List Char) : Option (QName × List Char) :=
  let rest := text.dropWhile isNameChar
  match Text.fields ':' (text.takeWhile isNameChar) with
  | [base] => if startsName base then some (⟨[], base⟩, rest) else none
  | [label, base] =>
    if (label.isEmpty || startsName label) && startsName base then some (⟨label, base⟩, rest)
    else none
  | _ => none

/-- The plain name at the start of the characters, colons included. -/
def nextName? (text : List Char) : Option (List Char × List Char) :=
  if startsName text then some (text.takeWhile isNameChar, text.dropWhile isNameChar) else none

/-- A name is not empty, so fewer characters are left. -/
theorem QName.length_lt_of_next? {text rest : List Char} {name : QName}
    (h : QName.next? text = some (name, rest)) : rest.length < text.length := by
  have hne : text.takeWhile isNameChar ≠ [] := by
    intro hnil
    simp [QName.next?, hnil, Text.fields, startsName] at h
  have hrest : rest = text.dropWhile isNameChar := by
    simp only [QName.next?] at h
    split at h <;> (try split at h) <;> simp_all
  rw [hrest]
  exact Text.length_dropWhile_lt hne

namespace Attribute

/-- The characters that may stand in the value of an attribute. -/
def isValueChar (c : Char) : Bool :=
  isXmlChar c && c != '<'

/-- The attribute at the start of the characters: a name, an equals sign, and a value in quotes
of either kind. -/
def next? (text : List Char) : Option (Attribute × List Char) :=
  match QName.next? text with
  | none => none
  | some (name, text) =>
    match text.dropWhile isSpace with
    | '=' :: text =>
      match text.dropWhile isSpace with
      | [] => none
      | quote :: text =>
        if quote = '"' || quote = '\'' then
          (Text.upTo isValueChar [quote] text).map fun (value, rest) => (⟨name, value⟩, rest)
        else none
    | _ => none

/-- An attribute that is cut off leaves fewer characters. -/
theorem length_lt_of_next? {text rest : List Char} {found : Attribute}
    (h : next? text = some (found, rest)) : rest.length < text.length := by
  rw [next?] at h
  split at h
  · simp at h
  · next name text₁ hname =>
    have h₁ := QName.length_lt_of_next? hname
    split at h
    · next text₂ heq =>
      have h₂ := Text.length_dropWhile_le isSpace text₁
      rw [heq, List.length_cons] at h₂
      split at h
      · simp at h
      · next quote text₃ hquote =>
        have h₃ := Text.length_dropWhile_le isSpace text₂
        rw [hquote, List.length_cons] at h₃
        split at h
        · obtain ⟨⟨value, r⟩, hcut, heq⟩ := Option.map_eq_some_iff.mp h
          obtain ⟨_, rfl⟩ : _ ∧ r = rest := by simpa using heq
          have h₄ := Text.length_lt_of_upTo (by simp) hcut
          omega
        · simp at h
    · simp at h

end Attribute

/-- The attributes and the end of a tag: white space stands before every attribute, and the tag
ends with its bracket, after a slash if the element has no content. -/
def tagRest? (text : List Char) : Option (List Attribute × Bool × List Char) :=
  if let some rest := Text.after? ['/', '>'] (text.dropWhile isSpace) then some ([], true, rest)
  else if let some rest := Text.after? ['>'] (text.dropWhile isSpace) then some ([], false, rest)
  else if (text.takeWhile isSpace).isEmpty then none
  else match _h : Attribute.next? (text.dropWhile isSpace) with
    | none => none
    | some (found, rest) =>
      (tagRest? rest).map fun (attributes, isEmpty, rest) =>
        (found :: attributes, isEmpty, rest)
termination_by text.length
decreasing_by
  exact Nat.lt_of_lt_of_le (Attribute.length_lt_of_next? _h) (Text.length_dropWhile_le isSpace text)

/-- The end of a tag is not longer than the tag. -/
theorem length_le_of_tagRest? {text rest : List Char} {attributes : List Attribute}
    {isEmpty : Bool} (h : tagRest? text = some (attributes, isEmpty, rest)) :
    rest.length ≤ text.length := by
  fun_induction tagRest? text generalizing attributes isEmpty rest with
  | case1 text r heq =>
    have hspace := Text.length_dropWhile_le isSpace text
    have hlead := Text.length_of_after? heq
    obtain ⟨_, _, rfl⟩ : _ ∧ _ ∧ r = rest := by simpa using h
    omega
  | case2 text r heq hnone =>
    have hspace := Text.length_dropWhile_le isSpace text
    have hlead := Text.length_of_after? heq
    obtain ⟨_, _, rfl⟩ : _ ∧ _ ∧ r = rest := by simpa using h
    omega
  | case3 => simp at h
  | case4 => simp at h
  | case5 text _ found r hnext _ _ ih =>
    have hspace := Text.length_dropWhile_le isSpace text
    have hfound := Attribute.length_lt_of_next? hnext
    obtain ⟨⟨more, isEmpty', r'⟩, hrec, heq⟩ := Option.map_eq_some_iff.mp h
    have hle := ih hrec
    obtain ⟨_, _, rfl⟩ : _ ∧ _ ∧ r' = rest := by simpa using heq
    omega

namespace Token

/-- What follows the opening of a comment; two hyphens stand only at its end. -/
def comment? (text : List Char) : Option (Token × List Char) :=
  match Text.upTo isXmlChar ['-', '-', '>'] text with
  | none => none
  | some (content, rest) =>
    if Text.occurs ['-', '-'] content || content.getLast? = some '-' then none
    else some (comment content, rest)

/-- What follows the opening of a quoted section. -/
def quotation? (text : List Char) : Option (Token × List Char) :=
  (Text.upTo isXmlChar [']', ']', '>'] text).map fun (content, rest) =>
    (quotation content, rest)

/-- What follows the opening of an end tag. -/
def endTag? (text : List Char) : Option (Token × List Char) :=
  match QName.next? text with
  | none => none
  | some (name, rest) =>
    match rest.dropWhile isSpace with
    | '>' :: rest => some (endTag name, rest)
    | _ => none

/-- What follows the opening of a processing instruction; the one that only a document may start
with is none. -/
def instruction? (text : List Char) : Option (Token × List Char) :=
  if (Text.after? ['x', 'm', 'l', ' '] text).isSome then none
  else match nextName? text with
    | none => none
    | some (target, rest) =>
      (Text.upTo isXmlChar ['?', '>'] (rest.dropWhile isSpace)).map fun (content, rest) =>
        (instruction target content, rest)

/-- What follows the bracket that opens a start tag. -/
def startTag? (text : List Char) : Option (Token × List Char) :=
  match QName.next? text with
  | none => none
  | some (name, rest) =>
    (tagRest? rest).map fun (attributes, isEmpty, rest) =>
      (startTag name attributes isEmpty, rest)

/-- The characters that end no character data. -/
def isData (c : Char) : Bool :=
  c != '<'

/-- Character data up to the next tag; the end of a quoted section may not stand in it. -/
def text? (chars : List Char) : Option (Token × List Char) :=
  let raw := chars.takeWhile isData
  if raw.isEmpty || !raw.all isXmlChar || Text.occurs [']', ']', '>'] raw then none
  else some (text raw, chars.dropWhile isData)

/-- The piece of markup at the start of the characters. -/
def next? (chars : List Char) : Option (Token × List Char) :=
  if let some rest := Text.after? ['<', '!', '-', '-'] chars then comment? rest
  else if let some rest := Text.after? ['<', '!', '[', 'C', 'D', 'A', 'T', 'A', '['] chars then
    quotation? rest
  else if let some rest := Text.after? ['<', '/'] chars then endTag? rest
  else if let some rest := Text.after? ['<', '?'] chars then instruction? rest
  else if let some rest := Text.after? ['<'] chars then startTag? rest
  else text? chars

/-! ## A token leaves fewer characters -/

private theorem length_comment? {chars rest : List Char} {token : Token}
    (h : comment? chars = some (token, rest)) : rest.length < chars.length := by
  rw [comment?] at h
  split at h
  · simp at h
  · next content r hcut =>
    split at h
    · simp at h
    · obtain ⟨_, rfl⟩ : _ ∧ r = rest := by simpa using h
      exact Text.length_lt_of_upTo (by simp) hcut

private theorem length_quotation? {chars rest : List Char} {token : Token}
    (h : quotation? chars = some (token, rest)) : rest.length < chars.length := by
  obtain ⟨⟨_, r⟩, hcut, heq⟩ := Option.map_eq_some_iff.mp h
  obtain ⟨_, rfl⟩ : _ ∧ r = rest := by simpa using heq
  exact Text.length_lt_of_upTo (by simp) hcut

private theorem length_endTag? {chars rest : List Char} {token : Token}
    (h : endTag? chars = some (token, rest)) : rest.length < chars.length := by
  rw [endTag?] at h
  split at h
  · simp at h
  · next name r hname =>
    have hlt := QName.length_lt_of_next? hname
    split at h
    · next r' heq =>
      have hle := Text.length_dropWhile_le isSpace r
      rw [heq, List.length_cons] at hle
      obtain ⟨_, rfl⟩ : _ ∧ r' = rest := by simpa using h
      omega
    · simp at h

private theorem length_instruction? {chars rest : List Char} {token : Token}
    (h : instruction? chars = some (token, rest)) : rest.length < chars.length := by
  rw [instruction?] at h
  split at h
  · simp at h
  · split at h
    · simp at h
    · next target r hname =>
      obtain ⟨⟨_, r'⟩, hcut, heq⟩ := Option.map_eq_some_iff.mp h
      obtain ⟨_, rfl⟩ : _ ∧ r' = rest := by simpa using heq
      have hlt := Text.length_lt_of_upTo (by simp) hcut
      have hle := Text.length_dropWhile_le isSpace r
      rw [nextName?] at hname
      split at hname
      · obtain ⟨_, rfl⟩ : _ ∧ _ = r := by simpa using hname
        have := Text.length_dropWhile_le isNameChar chars
        omega
      · simp at hname

private theorem length_startTag? {chars rest : List Char} {token : Token}
    (h : startTag? chars = some (token, rest)) : rest.length < chars.length := by
  rw [startTag?] at h
  split at h
  · simp at h
  · next name r hname =>
    obtain ⟨⟨_, _, r'⟩, hrest, heq⟩ := Option.map_eq_some_iff.mp h
    obtain ⟨_, rfl⟩ : _ ∧ r' = rest := by simpa using heq
    exact Nat.lt_of_le_of_lt (length_le_of_tagRest? hrest) (QName.length_lt_of_next? hname)

private theorem length_text? {chars rest : List Char} {token : Token}
    (h : text? chars = some (token, rest)) : rest.length < chars.length := by
  simp only [text?] at h
  split at h
  · simp at h
  · next hne =>
    obtain ⟨_, rfl⟩ : _ ∧ chars.dropWhile isData = rest := by simpa using h
    exact Text.length_dropWhile_lt fun hnil => hne (by simp [hnil])

/-- Every piece of markup has at least one character. -/
theorem length_lt_of_next? {chars rest : List Char} {token : Token}
    (h : next? chars = some (token, rest)) : rest.length < chars.length := by
  rw [next?] at h
  split at h
  · next hlead => have := Text.length_of_after? hlead; have := length_comment? h; omega
  split at h
  · next hlead => have := Text.length_of_after? hlead; have := length_quotation? h; omega
  split at h
  · next hlead => have := Text.length_of_after? hlead; have := length_endTag? h; omega
  split at h
  · next hlead => have := Text.length_of_after? hlead; have := length_instruction? h; omega
  split at h
  · next hlead => have := Text.length_of_after? hlead; have := length_startTag? h; omega
  · exact length_text? h

/-- The pieces of markup of a whole text. -/
def ofChars? (chars : List Char) : Option (List Token) :=
  if chars.isEmpty then some []
  else match _h : next? chars with
    | none => none
    | some (token, rest) => (ofChars? rest).map (token :: ·)
termination_by chars.length
decreasing_by exact length_lt_of_next? _h

end Token

end ReleaseStaging.Xml
