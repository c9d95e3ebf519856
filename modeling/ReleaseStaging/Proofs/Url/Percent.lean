import ReleaseStaging.Url.Basic

/-!
# Reading percent-encoded text

A text whose percent signs are all encoded is the only one with its encoding. Main statement:
decoding what encoding wrote gives the bytes of the text, and so the text. A dot segment, however
its dots are written, holds one dot or two.
-/

namespace ReleaseStaging.Url

/-- A byte that is written is read back. -/
theorem decode_percentByte_append (byte : UInt8) (rest : List Char) :
    decode (percentByte byte ++ rest) = byte :: decode rest := by
  have hbyte := byte.toNat_lt
  have hhigh := Text.hexDigit?_upperHexDigit (byte.toNat / 16) (by omega)
  have hlow := Text.hexDigit?_upperHexDigit (byte.toNat % 16) (Nat.mod_lt _ (by omega))
  simp only [percentByte, List.cons_append, List.nil_append, decode, hhigh, hlow,
    beq_self_eq_true, List.cons.injEq, and_true]
  rw [Nat.div_add_mod]
  exact UInt8.ofNat_toNat

/-- Only a percent sign stands for something else. -/
theorem decode_cons_of_ne {c : Char} (h : c ≠ '%') (rest : List Char) :
    decode (c :: rest) = String.utf8EncodeChar c ++ decode rest := by
  match rest with
  | [] => simp [decode]
  | [_] => simp [decode]
  | _ :: _ :: _ => simp [decode, h]

/-- Where percent signs are encoded, what is written is read back, whatever follows it. -/
theorem decode_encode_append {reserved : Char → Bool} (h : reserved '%' = true)
    (text rest : List Char) :
    decode (encode reserved text ++ rest) =
      text.flatMap String.utf8EncodeChar ++ decode rest := by
  have hbytes (bytes : List UInt8) (rest : List Char) :
      decode (bytes.flatMap percentByte ++ rest) = bytes ++ decode rest := by
    induction bytes with
    | nil => rfl
    | cons byte bytes ih =>
      rw [List.flatMap_cons, List.append_assoc, decode_percentByte_append, ih, List.cons_append]
  induction text with
  | nil => rfl
  | cons c text ih =>
    rw [encode, List.flatMap_cons, List.append_assoc, ← encode, List.flatMap_cons,
      List.append_assoc, ← ih, encodeChar]
    split
    · rename_i hkept
      apply decode_cons_of_ne
      rintro rfl
      simp [h] at hkept
    · exact hbytes _ _

/-- The text whose bytes an encoded text stands for, if they are those of a text. -/
def decodedText? (text : String) : Option String :=
  String.fromUTF8? (decode text.toList).toByteArray

/-- The text whose bytes were encoded is known from them. -/
theorem decodedText?_of_decode {text : String} {chars : List Char}
    (h : decode text.toList = chars.flatMap String.utf8EncodeChar) :
    decodedText? text = some (String.ofList chars) := by
  have hvalid : (chars.flatMap String.utf8EncodeChar).toByteArray.IsValidUTF8 := ⟨chars, rfl⟩
  rw [decodedText?, h, String.fromUTF8?, dif_pos hvalid, Option.some.injEq,
    ← String.toByteArray_inj]
  exact String.toByteArray_ofList.symm

/-- A text that is written with all its percent signs encoded is read back. -/
theorem decodedText?_encode {reserved : Char → Bool} (h : reserved '%' = true)
    (text : List Char) :
    decodedText? (String.ofList (encode reserved text)) = some (String.ofList text) := by
  have hdecode := decode_encode_append h text []
  rw [List.append_nil, decode, List.append_nil] at hdecode
  exact decodedText?_of_decode (by rw [String.toList_ofList, hdecode])

/-! ## Dot segments -/

/-- A character is its lower case form or the upper case form of that. -/
theorem eq_toLower_or (c : Char) : c = c.toLower ∨ c = c.toLower.toUpper := by
  by_cases hsmall : c.toNat ≤ 90
  · have htable : ∀ n ≤ 90, Char.ofNat n = (Char.ofNat n).toLower ∨
        Char.ofNat n = (Char.ofNat n).toLower.toUpper := by decide
    simpa only [Char.ofNat_toNat] using htable c.toNat hsmall
  · have hsame : c.toLower = c := dif_neg fun hupper => hsmall hupper.2
    exact .inl hsame.symm

/-- A dot is read from either of the two forms in which a dot segment may hold it. -/
theorem decode_of_dot {text rest : List Char}
    (h : text.map Char.toLower = '.' :: rest ∨ text.map Char.toLower = '%' :: '2' :: 'e' :: rest) :
    ∃ after, after.map Char.toLower = rest ∧ decode text = 46 :: decode after := by
  have hchar {c d : Char} (h : c.toLower = d) : c = d ∨ c = d.toUpper := h ▸ eq_toLower_or c
  rcases h with h | h
  · obtain ⟨c, after, rfl, hc, hafter⟩ := List.map_eq_cons_iff.mp h
    obtain rfl : c = '.' := (hchar hc).elim id id
    exact ⟨after, hafter, decode_cons_of_ne (by decide) after⟩
  · obtain ⟨c, tail, rfl, hc, htail⟩ := List.map_eq_cons_iff.mp h
    obtain ⟨high, tail, rfl, hhigh, htail⟩ := List.map_eq_cons_iff.mp htail
    obtain ⟨low, after, rfl, hlow, hafter⟩ := List.map_eq_cons_iff.mp htail
    obtain rfl : c = '%' := (hchar hc).elim id id
    obtain rfl : high = '2' := (hchar hhigh).elim id id
    refine ⟨after, hafter, ?_⟩
    rcases hchar hlow with rfl | rfl <;> rfl

/-- A segment that stands for the one before it holds one dot. -/
theorem decode_of_isSingleDot {text : List Char} (h : isSingleDot text = true) :
    decode text = ['.'].flatMap String.utf8EncodeChar := by
  have hdot : text.map Char.toLower = '.' :: [] ∨
      text.map Char.toLower = '%' :: '2' :: 'e' :: [] := by
    simpa [isSingleDot, ← String.toList_inj] using h
  obtain ⟨after, hafter, hdecode⟩ := decode_of_dot hdot
  rw [hdecode, List.map_eq_nil_iff.mp hafter]
  rfl

/-- A segment that takes back the one before it holds two dots. -/
theorem decode_of_isDoubleDot {text : List Char} (h : isDoubleDot text = true) :
    decode text = ['.', '.'].flatMap String.utf8EncodeChar := by
  have hdots : ∃ rest, (text.map Char.toLower = '.' :: rest ∨
      text.map Char.toLower = '%' :: '2' :: 'e' :: rest) ∧
      (rest = '.' :: [] ∨ rest = '%' :: '2' :: 'e' :: []) := by
    have hcases : text.map Char.toLower = ['.', '.'] ∨
        text.map Char.toLower = ['%', '2', 'e', '.'] ∨
        text.map Char.toLower = ['.', '%', '2', 'e'] ∨
        text.map Char.toLower = ['%', '2', 'e', '%', '2', 'e'] := by
      simpa [isDoubleDot, ← String.toList_inj] using h
    rcases hcases with h | h | h | h
    · exact ⟨_, .inl h, .inl rfl⟩
    · exact ⟨_, .inr h, .inl rfl⟩
    · exact ⟨_, .inl h, .inr rfl⟩
    · exact ⟨_, .inr h, .inr rfl⟩
  obtain ⟨rest, hfirst, hsecond⟩ := hdots
  obtain ⟨after, hafter, hdecode⟩ := decode_of_dot hfirst
  obtain ⟨last, hlast, hdecode'⟩ := decode_of_dot (hafter ▸ hsecond)
  rw [hdecode, hdecode', List.map_eq_nil_iff.mp hlast]
  rfl

end ReleaseStaging.Url
