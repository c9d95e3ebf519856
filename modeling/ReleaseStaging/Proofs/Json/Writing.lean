import ReleaseStaging.Proofs.Json.Reading

/-!
# Writing documents

The documents of this library are made of texts, natural numbers, truth values, lists and objects.
Main statement: each of them is written as the grammar of JSON allows it, in one line, so that
reading its text gives the document back.
-/

namespace ReleaseStaging.Json

/-! ## Strings -/

/-- The three ways in which a character stands in a string. -/
inductive EscapesAs (c : Char) : List Char → Prop where
  /-- As itself. -/
  | plain (hcontrol : 32 ≤ c.toNat) (hquote : c ≠ '"') (hbackslash : c ≠ '\\') : EscapesAs c [c]
  /-- As another character behind a backslash. -/
  | escaped {d : Char} (hd : isEscapable d = true) (hc : unescaped d = c) : EscapesAs c ['\\', d]
  /-- As its number. -/
  | unit {x y z w : Char} (hdigits : ∀ digit ∈ [x, y, z, w], isHexDigit digit)
      (hvalue : Text.hexValue [x, y, z, w] = c.toNat) (hcontrol : c.toNat < 32) :
      EscapesAs c ['\\', 'u', x, y, z, w]

/-- A control character has two digits. -/
theorem unitDigits_eq : ∀ n < 32, unitDigits n =
    ['0', '0', Nat.digitChar (n / 16), Nat.digitChar (n % 16)] := by
  decide

/-- Every character is written in one of the three ways. -/
theorem escapesAs_escapeChar (c : Char) : EscapesAs c (escapeChar c) := by
  unfold escapeChar
  split
  · exact .escaped (by decide) (by decide)
  · exact .escaped (by decide) (by decide)
  · exact .escaped (by decide) (by decide)
  · exact .escaped (by decide) (by decide)
  · exact .escaped (by decide) (by decide)
  · exact .escaped (by decide) (by decide)
  · exact .escaped (by decide) (by decide)
  · rename_i hquote hbackslash _ _ _ _ _
    split
    · rename_i hcontrol
      have hdigits : ∀ n < 32,
          (∀ digit ∈ ['0', '0', Nat.digitChar (n / 16), Nat.digitChar (n % 16)],
            isHexDigit digit) ∧
          Text.hexValue ['0', '0', Nat.digitChar (n / 16), Nat.digitChar (n % 16)] = n := by decide
      obtain ⟨hhex, hvalue⟩ := hdigits c.toNat hcontrol
      rw [unitDigits_eq c.toNat hcontrol]
      exact .unit hhex hvalue hcontrol
    · rename_i hcontrol
      exact .plain (Nat.not_lt.mp hcontrol) hquote hbackslash

/-- A text may stand between quotes. -/
theorem isLiteral_escape (text : String) : IsLiteral (escape text) := by
  rw [escape]
  induction text.toList with
  | nil => exact .nil
  | cons c rest ih =>
    rw [List.flatMap_cons]
    have hwritten := escapesAs_escapeChar c
    generalize escapeChar c = written at hwritten ⊢
    cases hwritten with
    | plain hcontrol hquote hbackslash => exact .plain hcontrol hquote hbackslash ih
    | escaped hd _ => exact .escaped hd ih
    | unit hdigits _ _ => exact .unit hdigits ih

/-- What is written as a number below all halves of pairs is read as this character. -/
theorem unescape?_unit {x y z w : Char} (h : Text.hexValue [x, y, z, w] < 0xD800)
    (rest : List Char) :
    unescape? ('\\' :: 'u' :: x :: y :: z :: w :: rest) =
      (unescape? rest).map (Char.ofNat (Text.hexValue [x, y, z, w]) :: ·) := by
  have hhigh : isHighHalf (Text.hexValue [x, y, z, w]) = false := by
    simp [isHighHalf, Nat.not_le.mpr h]
  have hlow : isLowHalf (Text.hexValue [x, y, z, w]) = false := by
    have hbelow : ¬ 0xDC00 ≤ Text.hexValue [x, y, z, w] := by omega
    simp [isLowHalf, hbelow]
  by_cases hpair : ∃ e f g h tail, rest = '\\' :: 'u' :: e :: f :: g :: h :: tail
  · obtain ⟨e, f, g, h, tail, rfl⟩ := hpair
    rw [unescape?]
    simp only [hhigh, hlow, Bool.false_and, Bool.or_self, Bool.false_eq_true, if_false]
  · rw [unescape?]
    · simp only [hhigh, hlow, Bool.or_self, Bool.false_eq_true, if_false]
    · exact fun e f g h tail heq => hpair ⟨e, f, g, h, tail, heq⟩

/-- A character that is written is read back. -/
theorem unescape?_escapeChar_append (c : Char) (rest : List Char) :
    unescape? (escapeChar c ++ rest) = (unescape? rest).map (c :: ·) := by
  have hwritten := escapesAs_escapeChar c
  generalize escapeChar c = written at hwritten ⊢
  cases hwritten with
  | plain _ _ hbackslash => simp [unescape?, hbackslash]
  | @escaped d hd hc =>
    have hunit : d ≠ 'u' := by rintro rfl; exact absurd hd (by decide)
    simp [unescape?, hunit, hc]
  | unit _ hvalue hcontrol =>
    have hread := unescape?_unit (by rw [hvalue]; omega) rest
    rw [hvalue, Char.ofNat_toNat] at hread
    exact hread

/-- A text that is written is read back. -/
theorem unescape?_escape (text : String) : unescape? (escape text) = some text.toList := by
  rw [escape]
  induction text.toList with
  | nil => rfl
  | cons c rest ih =>
    rw [List.flatMap_cons, unescape?_escapeChar_append, ih]
    rfl

/-- No control character stands between quotes. -/
theorem IsLiteral.visible {literal : List Char} (h : IsLiteral literal) :
    ∀ c ∈ literal, 32 ≤ c.toNat := by
  have hescapable : ∀ c ∈ ['"', '\\', '/', 'b', 'f', 'n', 'r', 't'], 32 ≤ c.toNat := by decide
  have hhex {c : Char} (h : isHexDigit c = true) : 32 ≤ c.toNat := by
    have hlowest : '0' ≤ c ∨ 'a' ≤ c ∨ 'A' ≤ c := by
      refine Decidable.byContradiction fun hnone => ?_
      simp only [not_or] at hnone
      simp [isHexDigit, Text.hexDigit?, hnone] at h
    rcases hlowest with h | h | h
    · exact Nat.le_trans (by decide) (Char.le_def.mp h)
    · exact Nat.le_trans (by decide) (Char.le_def.mp h)
    · exact Nat.le_trans (by decide) (Char.le_def.mp h)
  induction h with
  | nil => exact List.forall_mem_nil _
  | plain hcontrol _ _ _ ih => exact List.forall_mem_cons.mpr ⟨hcontrol, ih⟩
  | @escaped c _ hc _ ih =>
    have hcontrol := hescapable c (by simpa [isEscapable] using hc)
    exact List.forall_mem_cons.mpr ⟨by decide, List.forall_mem_cons.mpr ⟨hcontrol, ih⟩⟩
  | unit hdigits _ ih =>
    simp only [List.forall_mem_cons] at hdigits ⊢
    obtain ⟨hx, hy, hz, hw, -⟩ := hdigits
    exact ⟨by decide, by decide, hhex hx, hhex hy, hhex hz, hhex hw, ih⟩

/-! ## Numbers -/

/-- The digits of a number start with a zero only if there is one digit. -/
theorem head?_toDigits (n : Nat) (h : (Nat.toDigits 10 n).head? = some '0') :
    Nat.toDigits 10 n = ['0'] := by
  induction n using Nat.strongRecOn with
  | ind n ih =>
    by_cases hsmall : n < 10
    · rw [Nat.toDigits_of_lt_base hsmall] at h ⊢
      rw [Option.some.inj h]
    · rw [Nat.toDigits_of_base_le (by decide) (Nat.not_lt.mp hsmall), List.head?_append,
        List.head?_eq_some_head Nat.toDigits_ne_nil, Option.some_or,
        ← List.head?_eq_some_head Nat.toDigits_ne_nil] at h
      have hfront := ih (n / 10) (by omega) h
      have hvalue := Text.decimalValue_toDigits (n / 10)
      rw [hfront] at hvalue
      have hzero : Text.decimalValue ['0'] = 0 := by decide
      omega

/-- A natural number is written in its digits. -/
theorem Number.isWritten_ofNat (n : Nat) : (ofNat n).IsWritten (ofNat n).text where
  whole := ⟨Nat.toDigits_ne_nil, fun _ hc => Nat.isDigit_of_mem_toDigits (by decide) (by decide) hc⟩
  zero := head?_toDigits n
  fraction := List.forall_mem_nil _
  text := ⟨[], .none, by simp [Number.text, ofNat]⟩

/-- A natural number is read back. -/
@[simp] theorem Number.toNat?_ofNat (n : Nat) : (ofNat n).toNat? = some n := by
  rw [toNat?, if_pos (by rfl)]
  exact congrArg some (Text.decimalValue_toDigits n)

/-! ## Documents -/

/-- A document is written as the grammar allows it, and in one line. -/
structure IsProper (document : Json) : Prop where
  /-- Its text writes it. -/
  spells : Spells document document.chars
  /-- There is no control character in its text, in particular no line end. -/
  visible : ∀ c ∈ document.chars, 32 ≤ c.toNat

theorem isProper_null : IsProper .null :=
  ⟨.null, by decide⟩

theorem isProper_bool (value : Bool) : IsProper (.bool value) := by
  cases value with
  | true => exact ⟨.true, by decide⟩
  | false => exact ⟨.false, by decide⟩

theorem isProper_ofNat (n : Nat) : IsProper (ofNat n) := by
  refine ⟨.number (Number.isWritten_ofNat n), fun c hc => ?_⟩
  have hmem : c ∈ Nat.toDigits 10 n := by
    simpa [ofNat, chars, Number.text, Number.ofNat] using hc
  have hdigit := Nat.isDigit_of_mem_toDigits (by decide) (by decide) hmem
  simp only [Char.isDigit, Bool.and_eq_true, decide_eq_true_eq] at hdigit
  exact Nat.le_trans (by decide) (UInt32.le_iff_toNat_le.mp hdigit.1)

theorem isProper_string {literal : List Char} (h : IsLiteral literal) :
    IsProper (.string literal) := by
  refine ⟨.string h, fun c hc => ?_⟩
  have hcases : c = '"' ∨ c ∈ literal := by
    simpa [chars, quotedLiteral, or_comm, or_assoc] using hc
  rcases hcases with rfl | hmem
  · decide
  · exact h.visible c hmem

theorem isProper_ofText (text : String) : IsProper (ofText text) :=
  isProper_string (isLiteral_escape text)

theorem isProper_ofText? (text : Option String) : IsProper (ofText? text) := by
  cases text with
  | none => exact isProper_null
  | some text => exact isProper_ofText text

/-- White space is not needed around a document. -/
theorem IsProper.spellsPadded {document : Json} (h : IsProper document) :
    SpellsPadded document document.chars := by
  have hpadded : SpellsPadded document ([] ++ document.chars ++ []) :=
    .intro isGap_nil h.spells isGap_nil
  rwa [List.nil_append, List.append_nil] at hpadded

/-- Such documents are written one after another as the values of a list. -/
private theorem spellsItems_itemChars (item : Json) (rest : List Json)
    (h : ∀ each ∈ item :: rest, IsProper each) :
    SpellsItems (item :: rest) (itemChars (item :: rest)) ∧
      ∀ c ∈ itemChars (item :: rest), 32 ≤ c.toNat := by
  induction rest generalizing item with
  | nil =>
    have hitem := h item List.mem_cons_self
    exact ⟨.last hitem.spellsPadded, hitem.visible⟩
  | cons next rest ih =>
    have hitem := h item List.mem_cons_self
    obtain ⟨hspells, hvisible⟩ := ih next fun each heach => h each (List.mem_cons_of_mem _ heach)
    refine ⟨.cons hitem.spellsPadded hspells, List.forall_mem_append.mpr ⟨hitem.visible, ?_⟩⟩
    exact List.forall_mem_cons.mpr ⟨by decide, hvisible⟩

/-- A list of such documents is one. -/
theorem isProper_array {items : List Json} (h : ∀ item ∈ items, IsProper item) :
    IsProper (.array items) := by
  cases items with
  | nil => exact ⟨.emptyArray isGap_nil, by decide⟩
  | cons item rest =>
    obtain ⟨hspells, hvisible⟩ := spellsItems_itemChars item rest h
    refine ⟨.array hspells, List.forall_mem_cons.mpr ⟨by decide, ?_⟩⟩
    exact List.forall_mem_append.mpr ⟨hvisible, by decide⟩

/-- A member is written as its name, a colon and its value. -/
private theorem spellsMember_chars {name : List Char} {value : Json} (hname : IsLiteral name)
    (h : IsProper value) :
    SpellsMember (name, value) (quotedLiteral name ++ ':' :: value.chars) ∧
      ∀ c ∈ quotedLiteral name ++ ':' :: value.chars, 32 ≤ c.toNat := by
  refine ⟨?_, List.forall_mem_append.mpr ⟨(isProper_string hname).visible, ?_⟩⟩
  · have hmember := SpellsMember.intro isGap_nil hname isGap_nil h.spellsPadded
    rwa [List.nil_append, List.append_nil] at hmember
  · exact List.forall_mem_cons.mpr ⟨by decide, h.visible⟩

/-- Such members are written one after another as those of an object. -/
private theorem spellsMembers_memberChars (name : List Char) (value : Json)
    (rest : List (List Char × Json))
    (h : ∀ each ∈ (name, value) :: rest, IsLiteral each.1 ∧ IsProper each.2) :
    SpellsMembers ((name, value) :: rest) (memberChars ((name, value) :: rest)) ∧
      ∀ c ∈ memberChars ((name, value) :: rest), 32 ≤ c.toNat := by
  induction rest generalizing name value with
  | nil =>
    obtain ⟨hname, hvalue⟩ := h _ List.mem_cons_self
    obtain ⟨hspells, hvisible⟩ := spellsMember_chars hname hvalue
    exact ⟨.last hspells, hvisible⟩
  | cons next rest ih =>
    obtain ⟨hname, hvalue⟩ := h _ List.mem_cons_self
    obtain ⟨hfirst, hseen⟩ := spellsMember_chars hname hvalue
    obtain ⟨hspells, hvisible⟩ :=
      ih next.1 next.2 fun each heach => h each (List.mem_cons_of_mem _ heach)
    refine ⟨.cons hfirst hspells, List.forall_mem_append.mpr ⟨hseen, ?_⟩⟩
    exact List.forall_mem_cons.mpr ⟨by decide, hvisible⟩

/-- An object of such documents is one. -/
theorem isProper_object {members : List (List Char × Json)}
    (h : ∀ member ∈ members, IsLiteral member.1 ∧ IsProper member.2) :
    IsProper (.object members) := by
  cases members with
  | nil => exact ⟨.emptyObject isGap_nil, by decide⟩
  | cons member rest =>
    obtain ⟨hspells, hvisible⟩ := spellsMembers_memberChars member.1 member.2 rest h
    refine ⟨.object hspells, List.forall_mem_cons.mpr ⟨by decide, ?_⟩⟩
    exact List.forall_mem_append.mpr ⟨hvisible, by decide⟩

/-- An object whose members are named by texts is one. -/
theorem isProper_ofMembers {members : List (String × Json)}
    (h : ∀ member ∈ members, IsProper member.2) : IsProper (ofMembers members) := by
  refine isProper_object (List.forall_mem_map.mpr fun member hmember => ?_)
  exact ⟨isLiteral_escape member.1, h member hmember⟩

namespace IsProper

variable {document : Json}

/-- The text of a document writes it. -/
theorem isTextOf (h : IsProper document) : IsTextOf document document.text := by
  rw [IsTextOf, Json.text, String.toList_ofList]
  exact h.spellsPadded

/-- White space around the text changes nothing. -/
theorem isTextOf_padded (h : IsProper document) {before after : String}
    (hbefore : IsGap before.toList) (hafter : IsGap after.toList) :
    IsTextOf document (before ++ document.text ++ after) := by
  rw [IsTextOf, String.toList_append, String.toList_append, Json.text, String.toList_ofList]
  exact .intro hbefore h.spells hafter

/-- The text of a document is read as it. -/
theorem ofString?_text (h : IsProper document) : ofString? document.text = some document :=
  ofString?_of_isTextOf h.isTextOf

end IsProper

end ReleaseStaging.Json
