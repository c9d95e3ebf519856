import ReleaseStaging.Proofs.Json.Grammar
import ReleaseStaging.Proofs.Text.Scanning

/-!
# The words of what the grammar allows

Main statement: each word of a document is found again in front of anything else; only a number
must not be followed by what goes on it.
-/

namespace ReleaseStaging.Json

open Text (Stops)

/-- The characters with which a number goes on before its exponent. -/
def goesOnBefore (c : Char) : Bool :=
  c.isDigit || c == '.'

/-- The characters with which a number goes on. -/
def goesOn (c : Char) : Bool :=
  goesOnBefore c || c == 'e' || c == 'E'

theorem isDigit_of_goesOnBefore {c : Char} (h : goesOnBefore c = false) : c.isDigit = false :=
  (Bool.or_eq_false_iff.mp h).1

theorem goesOnBefore_of_goesOn {c : Char} (h : goesOn c = false) : goesOnBefore c = false := by
  simp only [goesOn, Bool.or_eq_false_iff] at h
  exact h.1.1

/-! ## Numbers -/

/-- Digits are read up to what is none. -/
theorem digits?_append {digits rest : List Char} (h : IsDigits digits)
    (hrest : Stops Char.isDigit rest) : digits? (digits ++ rest) = some (digits, rest) := by
  rw [digits?, Text.takeWhile_append h.2 hrest, Text.dropWhile_append h.2 hrest]
  simp [h.1]

/-- An exponent is read up to what is no digit. -/
theorem exponent?_append {exponent : Exponent} {text rest : List Char}
    (h : exponent.IsWritten text) (hrest : Stops Char.isDigit rest) :
    exponent? (text ++ rest) = some (some exponent, rest) := by
  cases h with
  | unsigned hletter hdigits =>
    have hread := digits?_append hdigits hrest
    obtain ⟨first, others, rfl⟩ := List.exists_cons_of_ne_nil hdigits.1
    have hfirst : first.isDigit = true := hdigits.2 first List.mem_cons_self
    have hplus : first ≠ '+' := by rintro rfl; exact absurd hfirst (by decide)
    have hminus : first ≠ '-' := by rintro rfl; exact absurd hfirst (by decide)
    rw [List.cons_append] at hread
    rcases hletter with rfl | rfl <;> simp [exponent?, hplus, hminus, hread]
  | signed hletter isNegative hdigits =>
    have hread := digits?_append hdigits hrest
    rcases hletter with rfl | rfl <;> cases isNegative <;> simp [exponent?, hread]

namespace Number

/-- The end of a number is read up to what does not go on a number. -/
theorem exponent?_ending {exponent : Option Exponent} {ending rest : List Char}
    (h : IsEnding exponent ending) (hrest : Stops goesOn rest) :
    exponent? (ending ++ rest) = some (exponent, rest) := by
  cases h with
  | none =>
    cases rest with
    | nil => rfl
    | cons c rest =>
      have hc := Text.stops_cons.mp hrest
      simp only [goesOn, Bool.or_eq_false_iff, beq_eq_false_iff_ne] at hc
      simp [exponent?, hc.1.2, hc.2]
  | some hwritten =>
    exact exponent?_append hwritten
      (hrest.mono fun _ hc => isDigit_of_goesOnBefore (goesOnBefore_of_goesOn hc))

/-- Neither a digit nor a point stands at the end of a number. -/
theorem IsEnding.stops {exponent : Option Exponent} {ending rest : List Char}
    (h : IsEnding exponent ending) (hrest : Stops goesOn rest) :
    Stops goesOnBefore (ending ++ rest) := by
  cases h with
  | none => exact hrest.mono fun _ => goesOnBefore_of_goesOn
  | some hwritten =>
    cases hwritten with
    | unsigned hletter hdigits => rcases hletter with rfl | rfl <;> exact Text.stops_cons.mpr rfl
    | signed hletter isNegative hdigits =>
      rcases hletter with rfl | rfl <;> exact Text.stops_cons.mpr rfl

/-- The digits behind a point are read, if there are any. -/
theorem fraction?_append {fraction rest : List Char} (h : ∀ c ∈ fraction, c.isDigit = true)
    (hrest : Stops goesOnBefore rest) :
    fraction? ((if fraction = [] then [] else '.' :: fraction) ++ rest) =
      some (fraction, rest) := by
  by_cases hnone : fraction = []
  · rw [if_pos hnone, hnone, List.nil_append]
    cases rest with
    | nil => rfl
    | cons c rest =>
      have hc := Text.stops_cons.mp hrest
      simp only [goesOnBefore, Bool.or_eq_false_iff, beq_eq_false_iff_ne] at hc
      simp [fraction?, hc.2]
  · rw [if_neg hnone, List.cons_append, fraction?]
    exact digits?_append ⟨hnone, h⟩ (hrest.mono fun _ => isDigit_of_goesOnBefore)

/-- The digits before a point are read, a zero only if it stands there alone. -/
theorem whole?_append {whole rest : List Char} (h : IsDigits whole)
    (hzero : whole.head? = some '0' → whole = ['0']) (hrest : Stops Char.isDigit rest) :
    whole? (whole ++ rest) = some (whole, rest) := by
  rw [whole?, digits?_append h hrest]
  split
  · rename_i heq
    simp only [Option.some.injEq, Prod.mk.injEq] at heq
    rw [heq.1] at hzero
    simp at hzero
  · rfl

/-- A number starts with its sign or a digit. -/
theorem IsWritten.exists_cons {number : Number} {text : List Char} (h : number.IsWritten text) :
    ∃ c rest, text = c :: rest ∧ (c = '-' ∨ c.isDigit = true) := by
  obtain ⟨ending, -, htext⟩ := h.text
  obtain ⟨first, others, hwhole⟩ := List.exists_cons_of_ne_nil h.whole.1
  cases hsign : number.isNegative with
  | false =>
    refine ⟨first, _, by rw [htext, hsign, hwhole]; rfl, .inr (h.whole.2 first ?_)⟩
    rw [hwhole]
    exact List.mem_cons_self
  | true => exact ⟨'-', _, by rw [htext, hsign]; rfl, .inl rfl⟩

/-- A number is read up to what does not go on a number. -/
theorem number?_append {number : Number} {text rest : List Char} (h : number.IsWritten text)
    (hrest : Stops goesOn rest) : number? (text ++ rest) = some (number, rest) := by
  obtain ⟨ending, hending, htext⟩ := h.text
  obtain ⟨isNegative, whole, fraction, exponent⟩ := number
  have hstops := hending.stops hrest
  have hwhole : whole? (whole ++ ((if fraction = [] then [] else '.' :: fraction) ++
      (ending ++ rest))) = some (whole, (if fraction = [] then [] else '.' :: fraction) ++
      (ending ++ rest)) := by
    refine whole?_append h.whole h.zero ?_
    split
    · exact hstops.mono fun _ => isDigit_of_goesOnBefore
    · exact Text.stops_cons.mpr rfl
  have hfraction := fraction?_append h.fraction hstops
  have hexponent := exponent?_ending hending hrest
  cases isNegative with
  | true => simp [number?, htext, hwhole, hfraction, hexponent]
  | false =>
    obtain ⟨first, others, rfl⟩ := List.exists_cons_of_ne_nil h.whole.1
    have hminus : first ≠ '-' := by
      rintro rfl
      exact absurd (h.whole.2 '-' List.mem_cons_self) (by decide)
    rw [List.cons_append] at hwhole
    simp [number?, htext, hminus, hwhole, hfraction, hexponent]

end Number

/-! ## Words -/

/-- A string is read up to its closing quote. -/
theorem literal?_append {literal : List Char} (h : IsLiteral literal) (rest : List Char) :
    literal? (literal ++ '"' :: rest) = some (literal, rest) := by
  induction h with
  | nil => rfl
  | plain hcontrol hquote hbackslash _ ih =>
    simp [literal?, hbackslash, Nat.not_lt.mpr hcontrol, ih]
  | @escaped c _ hc _ ih =>
    have hunit : c ≠ 'u' := by rintro rfl; exact absurd hc (by decide)
    simp [literal?, hunit, hc, ih]
  | unit hdigits _ ih => simp [literal?, List.all_eq_true.mpr hdigits, ih]

/-- The words of a text are found behind the white space at its start. -/
theorem tokens?_eq (text : List Char) :
    tokens? text = if text.dropWhile isSpace = [] then some [] else
      (Token.next? (text.dropWhile isSpace)).bind fun read =>
        (tokens? read.2).map (read.1 :: ·) := by
  rw [tokens?]
  split
  · rename_i hnil
    rw [if_pos hnil]
  · rename_i c cs hcons
    rw [if_neg (by rw [hcons]; exact List.cons_ne_nil c cs), hcons]
    split
    · rename_i hnext
      rw [hnext]
      rfl
    · rename_i token rest hnext
      rw [hnext]
      rfl

/-- White space before words makes no difference. -/
theorem tokens?_gap_append {gap : List Char} (h : IsGap gap) (rest : List Char) :
    tokens? (gap ++ rest) = tokens? rest := by
  rw [tokens?_eq, tokens?_eq rest, List.dropWhile_append_of_pos h]

/-- White space holds no words. -/
theorem tokens?_gap {gap : List Char} (h : IsGap gap) : tokens? gap = some [] := by
  have hnil := tokens?_gap_append h []
  rwa [List.append_nil, tokens?_eq [], if_pos List.dropWhile_nil] at hnil

/-- The first word of a text is read before the others. -/
theorem tokens?_of_next? {c : Char} {text rest : List Char} {token : Token}
    (hspace : isSpace c = false) (h : Token.next? (c :: text) = some (token, rest)) :
    tokens? (c :: text) = (tokens? rest).map (token :: ·) := by
  have hself : (c :: text).dropWhile isSpace = c :: text :=
    Text.dropWhile_eq_self (Text.stops_cons.mpr hspace)
  rw [tokens?_eq, hself, if_neg (List.cons_ne_nil c text), h]
  rfl

/-- A word that does not start with a quote is no string. -/
theorem Token.next?_cons {c : Char} (h : c ≠ '"') (text : List Char) :
    Token.next? (c :: text) = if isMark c then some (.mark c, text) else
      match word? (c :: text) with
      | some (value, rest) => some (.word value, rest)
      | none => (number? (c :: text)).map fun (value, rest) => (.number value, rest) := by
  unfold Token.next?
  split
  case h_1 heq => cases heq
  case h_2 heq => exact absurd (List.cons.inj heq).1 h
  case h_3 heq =>
    cases heq
    rfl

/-- The first word of a text may be a mark. -/
theorem tokens?_mark {c : Char} (h : isMark c = true) (rest : List Char) :
    tokens? (c :: rest) = (tokens? rest).map (.mark c :: ·) := by
  have hmarks : ∀ c ∈ ['{', '}', '[', ']', ',', ':'], isSpace c = false ∧ c ≠ '"' := by decide
  obtain ⟨hspace, hquote⟩ := hmarks c (by simpa [isMark] using h)
  exact tokens?_of_next? hspace (by rw [Token.next?_cons hquote, if_pos h])

/-- The first word of a text may be a string. -/
theorem tokens?_quotedLiteral {literal : List Char} (h : IsLiteral literal) (rest : List Char) :
    tokens? (quotedLiteral literal ++ rest) = (tokens? rest).map (.string literal :: ·) := by
  have hquoted : quotedLiteral literal ++ rest = '"' :: (literal ++ '"' :: rest) := by
    simp [quotedLiteral]
  rw [hquoted]
  exact tokens?_of_next? (by decide) (by simp [Token.next?, literal?_append h])

/-- The first word of a text may be a number. -/
theorem tokens?_number {number : Number} {text rest : List Char} (h : number.IsWritten text)
    (hrest : Stops goesOn rest) :
    tokens? (text ++ rest) = (tokens? rest).map (.number number :: ·) := by
  have hread := Number.number?_append h hrest
  obtain ⟨c, others, rfl, hc⟩ := h.exists_cons
  have hother : ∀ d ∈ [' ', '\n', '\t', '\r', '"', '{', '}', '[', ']', ',', ':', 'n', 't', 'f'],
      c ≠ d := by
    have hnone : ∀ d ∈ [' ', '\n', '\t', '\r', '"', '{', '}', '[', ']', ',', ':', 'n', 't', 'f'],
        ¬ (d = '-' ∨ d.isDigit = true) := by decide
    rintro d hd rfl
    exact hnone c hd hc
  simp only [List.forall_mem_cons, List.not_mem_nil, false_implies, implies_true] at hother
  have hmark : isMark c = false := by simp [isMark, hother]
  have hword : word? (c :: (others ++ rest)) = none := by
    simp [word?, words, Text.after?, Ne.symm, hother]
  rw [List.cons_append] at hread ⊢
  apply tokens?_of_next?
  · simp [isSpace, hother]
  · simp [Token.next?_cons hother.2.2.2.2.1, hmark, hword, hread]

/-- The first word of a text may be a value of its own. -/
theorem tokens?_word {word : List Char} {value : Option Bool} (h : (word, value) ∈ words)
    (rest : List Char) : tokens? (word ++ rest) = (tokens? rest).map (.word value :: ·) := by
  simp only [words, List.mem_cons, Prod.mk.injEq, List.not_mem_nil, or_false] at h
  rcases h with ⟨rfl, rfl⟩ | ⟨rfl, rfl⟩ | ⟨rfl, rfl⟩
  · exact tokens?_of_next? (by decide) rfl
  · exact tokens?_of_next? (by decide) rfl
  · exact tokens?_of_next? (by decide) rfl

end ReleaseStaging.Json
