import ReleaseStaging.Text.Base64

/-!
# Reading base 64

The strict reading of the standard alphabet: characters come in fours, `=` stands only at the end,
in the place of what is missing there, and the bits that belong to no byte are zero. Main statement:
what was written is read back, whatever the number of bytes.
-/

namespace ReleaseStaging.Text

/-- Whether a character is one of those of ASCII that can be seen. -/
def isVisible (c : Char) : Bool :=
  0x21 ≤ c.toNat && c.toNat ≤ 0x7E

namespace Base64

/-! ## Reading -/

/-- The six bits of a character. -/
def value? (c : Char) : Option Nat :=
  if 'A' ≤ c ∧ c ≤ 'Z' then some (c.toNat - 'A'.toNat)
  else if 'a' ≤ c ∧ c ≤ 'z' then some (26 + (c.toNat - 'a'.toNat))
  else if '0' ≤ c ∧ c ≤ '9' then some (52 + (c.toNat - '0'.toNat))
  else if c = '+' then some 62
  else if c = '/' then some 63
  else none

/-- The bytes of four characters: one where the last two are missing, two where the last one is. -/
def quartet? (a b c d : Char) : Option (List UInt8) := do
  let twelve := 0x40 * (← value? a) + (← value? b)
  if c = '=' ∧ d = '=' then
    if twelve % 0x10 = 0 then some [.ofNat (twelve / 0x10)] else none
  else
    let eighteen := 0x40 * twelve + (← value? c)
    if d = '=' then
      if eighteen % 4 = 0 then
        some [.ofNat (eighteen / 0x400), .ofNat (eighteen / 4 % 0x100)]
      else none
    else
      let whole := 0x40 * eighteen + (← value? d)
      some [.ofNat (whole / 0x10000), .ofNat (whole / 0x100 % 0x100), .ofNat (whole % 0x100)]

/-- The bytes that characters stand for, unless they are no base 64. -/
def decode? : List Char → Option (List UInt8)
  | [] => some []
  | a :: b :: c :: d :: rest => do
    let bytes ← quartet? a b c d
    if d = '=' ∧ rest ≠ [] then none else return bytes ++ (← decode? rest)
  | _ => none

/-! ## The alphabet -/

/-- A character of the alphabet has the value that it was written for. -/
theorem value?_digit {value : Nat} (h : value < 64) : value? (digit value) = some value := by
  have hall : ∀ value < 64, value? (digit value) = some value := by decide +kernel
  exact hall value h

/-- A character of the alphabet is no padding. -/
theorem digit_ne_padding {value : Nat} (h : value < 64) : digit value ≠ '=' := by
  have hall : ∀ value < 64, digit value ≠ '=' := by decide +kernel
  exact hall value h

/-- A character of the alphabet can be seen. -/
theorem isVisible_digit {value : Nat} (h : value < 64) : isVisible (digit value) = true := by
  have hall : ∀ value < 64, isVisible (digit value) = true := by decide +kernel
  exact hall value h

/-! ## Four characters -/

section

variable {first second third fourth : Nat} (hfirst : first < 64) (hsecond : second < 64)

include hfirst hsecond

/-- Two digits are read as the byte that they hold. -/
theorem quartet?_two {a : UInt8} (h : 0x40 * first + second = 0x10 * a.toNat) :
    quartet? (digit first) (digit second) '=' '=' = some [a] := by
  have hspare : (0x40 * first + second) % 0x10 = 0 := by omega
  have hbyte : (0x40 * first + second) / 0x10 = a.toNat := by omega
  simp [quartet?, value?_digit hfirst, value?_digit hsecond, hspare, hbyte]

/-- Three digits are read as the two bytes that they hold. -/
theorem quartet?_three (hthird : third < 64) {a b : UInt8}
    (h : 0x40 * (0x40 * first + second) + third = 4 * (0x100 * a.toNat + b.toNat)) :
    quartet? (digit first) (digit second) (digit third) '=' = some [a, b] := by
  have hb := b.toNat_lt
  have hspare : (0x40 * (0x40 * first + second) + third) % 4 = 0 := by omega
  have hhigh : (0x40 * (0x40 * first + second) + third) / 0x400 = a.toNat := by omega
  have hlow : (0x40 * (0x40 * first + second) + third) / 4 % 0x100 = b.toNat := by omega
  simp [quartet?, value?_digit hfirst, value?_digit hsecond, value?_digit hthird,
    digit_ne_padding hthird, hspare, hhigh, hlow]

/-- Four digits are read as the three bytes that they hold. -/
theorem quartet?_four (hthird : third < 64) (hfourth : fourth < 64) {a b c : UInt8}
    (h : 0x40 * (0x40 * (0x40 * first + second) + third) + fourth =
      0x10000 * a.toNat + 0x100 * b.toNat + c.toNat) :
    quartet? (digit first) (digit second) (digit third) (digit fourth) = some [a, b, c] := by
  have hb := b.toNat_lt
  have hc := c.toNat_lt
  have hhigh : (0x10000 * a.toNat + 0x100 * b.toNat + c.toNat) / 0x10000 = a.toNat := by omega
  have hmiddle : (0x10000 * a.toNat + 0x100 * b.toNat + c.toNat) / 0x100 % 0x100 = b.toNat := by
    omega
  have hlow : (0x10000 * a.toNat + 0x100 * b.toNat + c.toNat) % 0x100 = c.toNat := by omega
  simp [quartet?, value?_digit hfirst, value?_digit hsecond, value?_digit hthird,
    value?_digit hfourth, digit_ne_padding hfourth, h, hhigh, hmiddle, hlow]

end

/-! ## What was written -/

/-- What was written is read back. -/
theorem decode?_encode (bytes : List UInt8) : decode? (encode bytes) = some bytes := by
  fun_induction encode bytes with
  | case1 => rfl
  | case2 a =>
    have ha := a.toNat_lt
    have hread := quartet?_two (Nat.mod_lt (0x10000 * a.toNat / 0x40000) (by decide))
      (Nat.mod_lt (0x10000 * a.toNat / 0x1000) (by decide)) (a := a) (by omega)
    simp [group, decode?, hread]
  | case3 a b =>
    have ha := a.toNat_lt
    have hb := b.toNat_lt
    generalize hvalue : 0x10000 * a.toNat + 0x100 * b.toNat = value
    have hread := quartet?_three (Nat.mod_lt (value / 0x40000) (by decide))
      (Nat.mod_lt (value / 0x1000) (by decide)) (Nat.mod_lt (value / 0x40) (by decide))
      (a := a) (b := b) (by omega)
    simp [group, decode?, hread]
  | case4 a b c rest ih =>
    have ha := a.toNat_lt
    have hb := b.toNat_lt
    have hc := c.toNat_lt
    generalize hvalue : 0x10000 * a.toNat + 0x100 * b.toNat + c.toNat = value
    have hread := quartet?_four (Nat.mod_lt (value / 0x40000) (by decide))
      (Nat.mod_lt (value / 0x1000) (by decide)) (Nat.mod_lt (value / 0x40) (by decide))
      (Nat.mod_lt value (by decide)) (a := a) (b := b) (c := c) (by omega)
    have hmore : digit (value % 64) ≠ '=' := digit_ne_padding (Nat.mod_lt _ (by decide))
    simp [group, decode?, hread, hmore, ih]

/-- Only characters that can be seen are written. -/
theorem isVisible_of_mem_encode {bytes : List UInt8} {c : Char} (h : c ∈ encode bytes) :
    isVisible c = true := by
  have hgroup {value : Nat} (h : c ∈ group value) : isVisible c = true := by
    simp only [group, List.mem_cons, List.not_mem_nil, or_false] at h
    rcases h with rfl | rfl | rfl | rfl <;> exact isVisible_digit (Nat.mod_lt _ (by decide))
  have hpadding (h : c ∈ ['=', '=']) : isVisible c = true := by
    obtain rfl : c = '=' := by simpa using h
    rfl
  fun_induction encode bytes with
  | case1 => exact absurd h List.not_mem_nil
  | case2 a => exact (List.mem_append.mp h).elim (hgroup ∘ List.mem_of_mem_take) hpadding
  | case3 a b =>
    exact (List.mem_append.mp h).elim (hgroup ∘ List.mem_of_mem_take)
      (hpadding ∘ List.mem_cons_of_mem _)
  | case4 a b c rest ih => exact (List.mem_append.mp h).elim hgroup ih

end Base64

end ReleaseStaging.Text
