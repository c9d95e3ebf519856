import Mathlib.Algebra.Group.Nat.Defs
import ReleaseStaging.Text.Number

/-!
# Texts that are numbers

A number is written in digits of any count, leading zeros included, and a signed one may have either
sign before them, also before a zero. Reading gives a value exactly if the text is such a number and
its value is within the bounds. Digits that are left out at the end divide the value by a power of
ten.
-/

namespace ReleaseStaging.Text

/-! ## Values of digits -/

/-- The value of an ASCII digit has one digit. -/
theorem digitValue_lt {c : Char} (h : c.isDigit = true) : digitValue c < 10 := by
  simp only [Char.isDigit, Bool.and_eq_true, decide_eq_true_eq, UInt32.le_iff_toNat_le] at h
  exact Nat.lt_of_le_of_lt (Nat.sub_le_sub_right h.2 _) (by decide)

theorem decimalValue_singleton (c : Char) : decimalValue [c] = digitValue c :=
  (decimalValue_concat [] c).trans (Nat.zero_add _)

/-- Digits at the end move those before them up by their count. -/
theorem decimalValue_append (digits more : List Char) : decimalValue (digits ++ more) =
    10 ^ more.length * decimalValue digits + decimalValue more :=
  calc
    decimalValue (digits ++ more) = Nat.ofDigitChars 10 more (decimalValue digits) :=
      Nat.ofDigitChars_append 0
    _ = 10 ^ more.length * decimalValue digits + decimalValue more :=
      Nat.ofDigitChars_eq_ofDigitChars_zero

/-- The value of some digits has no more digits than they are. -/
theorem decimalValue_lt {digits : List Char} (h : ∀ c ∈ digits, c.isDigit = true) :
    decimalValue digits < 10 ^ digits.length := by
  induction digits with
  | nil => simp
  | cons c digits ih =>
    have hfirst : digitValue c ≤ 9 := Nat.le_of_lt_succ (digitValue_lt (h c List.mem_cons_self))
    have hmoved : 10 ^ digits.length * digitValue c ≤ 10 ^ digits.length * 9 :=
      Nat.mul_le_mul_left _ hfirst
    have hrest := ih fun d hd => h d (List.mem_cons_of_mem c hd)
    rw [← List.singleton_append, decimalValue_append, decimalValue_singleton, List.length_append,
      List.length_singleton, Nat.add_comm 1, pow_succ]
    omega

/-- Leaving digits out at the end divides by a power of ten. -/
theorem decimalValue_take {digits : List Char} (h : ∀ c ∈ digits, c.isDigit = true) (count : Nat) :
    decimalValue (digits.take count) = decimalValue digits / 10 ^ (digits.length - count) := by
  have hleft : decimalValue (digits.drop count) < 10 ^ (digits.drop count).length :=
    decimalValue_lt fun c hc => h c (List.mem_of_mem_drop hc)
  have hwhole := decimalValue_append (digits.take count) (digits.drop count)
  rw [List.take_append_drop] at hwhole
  rw [List.length_drop] at hleft hwhole
  rw [hwhole, Nat.add_comm, Nat.add_mul_div_left _ _ (Nat.pow_pos (Nat.succ_pos 9)),
    Nat.div_eq_of_lt hleft, Nat.zero_add]

/-! ## Numbers in digits -/

/-- A text consists of digits, at least one, which have a value together. -/
structure NaturalText (text : List Char) (n : Nat) : Prop where
  /-- There is a digit. -/
  ne_nil : text ≠ []
  /-- There is nothing else. -/
  digits : ∀ c ∈ text, c.isDigit = true
  /-- The digits have the value. -/
  value : decimalValue text = n

/-- A text consists of digits after a sign or none. -/
inductive IntegerText : List Char → Int → Prop
  /-- There are only digits. -/
  | unsigned {digits : List Char} {n : Nat} (h : NaturalText digits n) : IntegerText digits n
  /-- A plus sign changes nothing. -/
  | plus {digits : List Char} {n : Nat} (h : NaturalText digits n) : IntegerText ('+' :: digits) n
  /-- A minus sign turns the value around. -/
  | minus {digits : List Char} {n : Nat} (h : NaturalText digits n) :
      IntegerText ('-' :: digits) (-n)

/-- A text is a number that fits into 64 bits with its sign. -/
structure Int64Text (text : List Char) (number : Int) : Prop where
  /-- It is a number. -/
  integer : IntegerText text number
  /-- It is not too small. -/
  minValue_le : Int64.minValue.toInt ≤ number
  /-- It is not too large. -/
  le_maxValue : number ≤ Int64.maxValue.toInt

variable {text : List Char}

theorem natural?_eq_some_iff {n : Nat} : natural? text = some n ↔ NaturalText text n := by
  constructor
  · intro h
    obtain ⟨⟨hne, hdigits⟩, hvalue⟩ :
        (text ≠ [] ∧ ∀ c ∈ text, c.isDigit = true) ∧ decimalValue text = n := by
      simpa [natural?] using h
    exact ⟨hne, hdigits, hvalue⟩
  · rintro ⟨hne, hdigits, rfl⟩
    simpa [natural?, hne] using hdigits

/-- A number in digits starts with a digit. -/
theorem NaturalText.isDigit_head {c : Char} {n : Nat} (h : NaturalText (c :: text) n) :
    c.isDigit = true :=
  h.digits c List.mem_cons_self

theorem unsignedBelow?_eq_some_iff {bound n : Nat} : unsignedBelow? bound text = some n ↔
    (NaturalText text n ∨ ∃ digits, text = '+' :: digits ∧ NaturalText digits n) ∧ n < bound := by
  unfold unsignedBelow?
  rw [Option.filter_eq_some_iff, natural?_eq_some_iff, decide_eq_true_iff]
  refine and_congr_left fun _ => ?_
  split
  next digits =>
    have hsign : ¬NaturalText ('+' :: digits) n := fun h => absurd h.isDigit_head (by decide)
    simp [hsign]
  next hnone =>
    have hsign : ¬∃ digits, text = '+' :: digits ∧ NaturalText digits n :=
      fun ⟨digits, heq, _⟩ => hnone digits heq
    simp only [hsign, or_false]

/-- A signed number is read exactly if the text is one and within the bounds. -/
theorem signedWithin?_eq_some_iff {bound : Nat} (hbound : 0 < bound) {number : Int} :
    signedWithin? bound text = some number ↔
      IntegerText text number ∧ -(bound : Int) ≤ number ∧ number < bound := by
  constructor
  · intro h
    unfold signedWithin? at h
    split at h
    next digits =>
      obtain ⟨n, ⟨hread, hle⟩, rfl⟩ : ∃ n : Nat,
          (natural? digits = some n ∧ n ≤ bound) ∧ -(n : Int) = number := by
        simpa [Option.bind_eq_some_iff, Option.filter_eq_some_iff] using h
      exact ⟨.minus (natural?_eq_some_iff.mp hread), by omega, by omega⟩
    next =>
      obtain ⟨n, hread, rfl⟩ := Option.map_eq_some_iff.mp h
      obtain ⟨htext, hlt⟩ := unsignedBelow?_eq_some_iff.mp hread
      refine ⟨?_, by simp only [Int.ofNat_eq_natCast]; omega, Int.ofNat_lt.mpr hlt⟩
      rcases htext with hn | ⟨digits, rfl, hn⟩
      · exact .unsigned hn
      · exact .plus hn
  · rintro ⟨htext, hlower, hupper⟩
    cases htext with
    | @minus digits n hn =>
      have hle : n ≤ bound := by omega
      simp [signedWithin?, natural?_eq_some_iff.mpr hn, Option.filter, hle]
    | @plus digits n hn =>
      have hread : unsignedBelow? bound ('+' :: digits) = some n :=
        unsignedBelow?_eq_some_iff.mpr ⟨.inr ⟨digits, rfl, hn⟩, by omega⟩
      simp [signedWithin?, hread]
    | @unsigned _ n hn =>
      have hread : unsignedBelow? bound text = some n :=
        unsignedBelow?_eq_some_iff.mpr ⟨.inl hn, by omega⟩
      unfold signedWithin?
      split
      next digits => exact absurd hn.isDigit_head (by decide)
      next => rw [hread]; rfl

/-- Within the bounds of 64 bits, the numbers that fit are read. -/
theorem signedWithin?_int64 {number : Int} :
    signedWithin? (Int64.size / 2) text = some number ↔ Int64Text text number := by
  have hsize : ((Int64.size / 2 : Nat) : Int) = 9223372036854775808 := rfl
  have hmin : Int64.minValue.toInt = -9223372036854775808 := rfl
  have hmax : Int64.maxValue.toInt = 9223372036854775807 := rfl
  rw [signedWithin?_eq_some_iff (by decide), hsize]
  constructor
  · rintro ⟨htext, hlower, hupper⟩
    exact ⟨htext, by omega, by omega⟩
  · rintro ⟨htext, hlower, hupper⟩
    exact ⟨htext, by omega, by omega⟩

end ReleaseStaging.Text
