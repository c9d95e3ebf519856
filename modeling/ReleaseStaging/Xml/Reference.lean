import ReleaseStaging.Text.Hexadecimal
import ReleaseStaging.Text.Number
import ReleaseStaging.Xml.Token

/-!
# References

Character data and attribute values may name a character by its number or by one of five words.
`characterData?` and `attributeValue?` resolve these references and read line ends; a reference to
anything else makes the text unreadable.
-/

namespace ReleaseStaging.Xml

/-- The words that name a character. -/
def namedCharacters : List (List Char × Char) :=
  [("quot".toList, '"'), ("amp".toList, '&'), ("apos".toList, '\''), ("lt".toList, '<'),
    ("gt".toList, '>')]

/-- The character with a given number; a number of 32 bits that is no character's stands for the
replacement character. -/
def characterNumbered? (n : Nat) : Option Char :=
  if n < UInt32.size then
    let c := if n.isValidChar then Char.ofNat n else '\uFFFD'
    if isXmlChar c then some c else none
  else none

/-- The character that the reference after an ampersand stands for, and what follows its
semicolon. -/
def reference? (text : List Char) : Option (Char × List Char) :=
  let named := match text with
    | '#' :: 'x' :: text =>
      let digits := text.takeWhile fun c => (Text.hexDigit? c).isSome
      if digits.isEmpty then none
      else (characterNumbered? (Text.hexValue digits)).map fun c =>
        (c, text.dropWhile fun c => (Text.hexDigit? c).isSome)
    | '#' :: text =>
      let digits := text.takeWhile Char.isDigit
      if digits.isEmpty then none
      else (characterNumbered? (Text.decimalValue digits)).map fun c =>
        (c, text.dropWhile Char.isDigit)
    | _ => (nextName? text).bind fun (name, rest) =>
      (namedCharacters.lookup name).map fun c => (c, rest)
  match named with
  | some (c, ';' :: rest) => some (c, rest)
  | _ => none

private theorem length_nextName? {text rest name : List Char}
    (h : nextName? text = some (name, rest)) : rest.length ≤ text.length := by
  rw [nextName?] at h
  split at h
  · obtain ⟨_, rfl⟩ : _ ∧ _ = rest := by simpa using h
    exact Text.length_dropWhile_le isNameChar text
  · simp at h

/-- A reference ends before the text does. -/
theorem length_lt_of_reference? {text rest : List Char} {c : Char}
    (h : reference? text = some (c, rest)) : rest.length < text.length := by
  simp only [reference?] at h
  split at h
  · next c' rest' hnamed =>
    obtain ⟨_, rfl⟩ : c' = c ∧ rest' = rest := by simpa using h
    split at hnamed
    · next text' =>
      split at hnamed
      · simp at hnamed
      · obtain ⟨_, _, heq⟩ := Option.map_eq_some_iff.mp hnamed
        have hrest : text'.dropWhile (fun c => (Text.hexDigit? c).isSome) = ';' :: rest' := by
          simpa using (Prod.mk.inj heq).2
        have hle := Text.length_dropWhile_le (fun c => (Text.hexDigit? c).isSome) text'
        rw [hrest] at hle
        simp only [List.length_cons] at hle ⊢
        omega
    · next text' _ =>
      split at hnamed
      · simp at hnamed
      · obtain ⟨_, _, heq⟩ := Option.map_eq_some_iff.mp hnamed
        have hrest : text'.dropWhile Char.isDigit = ';' :: rest' := by
          simpa using (Prod.mk.inj heq).2
        have hle := Text.length_dropWhile_le Char.isDigit text'
        rw [hrest] at hle
        simp only [List.length_cons] at hle ⊢
        omega
    · obtain ⟨⟨_, rest₂⟩, hname, hlookup⟩ := Option.bind_eq_some_iff.mp hnamed
      obtain ⟨_, _, heq⟩ := Option.map_eq_some_iff.mp hlookup
      have hrest : rest₂ = ';' :: rest' := (Prod.mk.inj heq).2
      have hle := length_nextName? hname
      rw [hrest] at hle
      simp only [List.length_cons] at hle
      omega
  · simp at h

/-- The characters read so far, last one first, with one more literal character: a carriage return
becomes a line feed as soon as the character after it, or the end of the text, is seen. -/
def pushLiteral (read : List Char) (c : Char) (isLast : Bool) : List Char :=
  let ended := if isLast && c = '\r' then '\n' else c
  match read with
  | '\r' :: earlier => if c = '\n' then '\n' :: earlier else ended :: '\n' :: earlier
  | _ => ended :: read

/-- Character data with its references resolved and its line ends read. A carriage return that
touches a reference is kept as it is: before a reference always, after one if the text ends with
it. -/
def characterData? (raw : List Char) : Option (List Char) :=
  go raw [] false
where
  /-- `read` holds the characters read so far, last one first; `touches` tells that the last one
  came from a reference. -/
  go (raw read : List Char) (touches : Bool) : Option (List Char) :=
    match raw with
    | [] => some read.reverse
    | c :: text =>
      if c = '&' then
        match _h : reference? text with
        | none => none
        | some (named, rest) => go rest (named :: read) true
      else if touches then go text (c :: read) false
      else go text (pushLiteral read c text.isEmpty) false
  termination_by raw.length
  decreasing_by
    · have := length_lt_of_reference? _h
      simp only [List.length_cons]
      omega
    · simp
    · simp

/-- The value of an attribute with its references resolved; white space in it is read as spaces,
a carriage return and line feed as one. -/
def attributeValue? (raw : List Char) : Option (List Char) :=
  match raw with
  | [] => some []
  | c :: text =>
    if c = '&' then
      match _h : reference? text with
      | none => none
      | some (named, rest) => (attributeValue? rest).map (named :: ·)
    else if c = '\r' && text.head? = some '\n' then attributeValue? text
    else (attributeValue? text).map ((if isSpace c then ' ' else c) :: ·)
termination_by raw.length
decreasing_by
  · have := length_lt_of_reference? _h
    simp only [List.length_cons]
    omega
  · simp
  · simp

end ReleaseStaging.Xml
