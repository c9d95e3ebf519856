import ReleaseStaging.Calendar.Reader
import ReleaseStaging.Proofs.Text.Number
import ReleaseStaging.Proofs.Text.Scanning

/-!
# The colon of a zone

The zone of a time may be written with a colon between its hours and minutes or without it. The
internet form is read with the colon only, so without it a time is left to the other form. A time
whose date, time of day and zone have all of their digits is read alike by both: from the same
digits come the same numbers, and what the internet form refuses is no instant anyway.
Main statement: `instant_ignores_zone_colon`.
-/

namespace ReleaseStaging.Calendar

/-! ## What is written -/

/-- A number written in a fixed count of digits. -/
structure Field (width : Nat) where
  /-- The digits. -/
  digits : List Char
  /-- There are as many as wanted. -/
  length_digits : digits.length = width
  /-- There is nothing else. -/
  isDigit : ∀ c ∈ digits, c.isDigit = true

namespace Field

variable {width : Nat}

/-- The number that is written. -/
def value (field : Field width) : Nat := Text.decimalValue field.digits

/-- What starts with a number starts with a digit. -/
theorem isDigit_head (field : Field width) (hwidth : 0 < width) {rest : List Char} {c : Char}
    (h : (field.digits ++ rest).head? = some c) : c.isDigit = true := by
  obtain ⟨first, more, hdigits⟩ : ∃ first more, field.digits = first :: more := by
    rw [← List.length_pos_iff_exists_cons, field.length_digits]
    exact hwidth
  obtain rfl : first = c := by simpa [hdigits] using h
  exact field.isDigit first (hdigits ▸ List.mem_cons_self)

end Field

/-- A date and time of day and a zone in hours and minutes, digit by digit. The digits need not
make sense: there may be a month 13 or a zone of 99 hours. -/
structure Written where
  /-- The year. -/
  year : Field 4
  /-- The month. -/
  month : Field 2
  /-- The day of the month. -/
  day : Field 2
  /-- The hour. -/
  hour : Field 2
  /-- The minute. -/
  minute : Field 2
  /-- The second. -/
  second : Field 2
  /-- The digits after a point, however many, if there is a point. -/
  fraction : Option (Σ width, Field width)
  /-- Whether the zone is behind universal time. -/
  isBehind : Bool
  /-- The hours of the zone. -/
  zoneHours : Field 2
  /-- The minutes of the zone. -/
  zoneMinutes : Field 2

namespace Written

/-- The characters of the fraction. -/
def fractionChars (written : Written) : List Char :=
  match written.fraction with
  | none => []
  | some ⟨_, field⟩ => '.' :: field.digits

/-- The characters of the zone with something between its hours and minutes. -/
def zoneChars (written : Written) (between : List Char) : List Char :=
  (if written.isBehind then '-' else '+') ::
    (written.zoneHours.digits ++ (between ++ written.zoneMinutes.digits))

/-- The characters of the time with something between hours and minutes of its zone. -/
def chars (written : Written) (between : List Char) : List Char :=
  written.year.digits ++ '-' :: (written.month.digits ++ '-' :: (written.day.digits ++ 'T' ::
    (written.hour.digits ++ ':' :: (written.minute.digits ++ ':' :: (written.second.digits ++
      (written.fractionChars ++ written.zoneChars between))))))

/-- The time with a colon in its zone. -/
def text (written : Written) : String := String.ofList (written.chars [':'])

/-- The time with the colon removed from its zone. -/
def compactText (written : Written) : String := String.ofList (written.chars [])

/-- The whole nanoseconds of the fraction; a point must have a digit after it. -/
def nanos? (written : Written) : Option Nat :=
  match written.fraction with
  | none => some 0
  | some ⟨0, _⟩ => none
  | some ⟨width + 1, field⟩ => some (field.value * 10 ^ 9 / 10 ^ (width + 1))

/-- Seconds that the zone is ahead of universal time. -/
def offset (written : Written) : Int :=
  let seconds : Int := (written.zoneHours.value * 3600 + written.zoneMinutes.value * 60 : Nat)
  if written.isBehind then -seconds else seconds

/-- The numbers that are written, if the fraction is one and the zone has minutes of an hour. -/
def reading? (written : Written) : Option Reading :=
  if written.zoneMinutes.value ≤ 59 then
    written.nanos?.map fun nanos =>
      ⟨⟨written.year.value, written.month.value, written.day.value⟩, written.hour.value,
        written.minute.value, written.second.value, nanos, written.offset⟩
  else none

/-- The instant that is written, if there is such a date and time. -/
def instant? (written : Written) : Option Instant := written.reading?.bind Reading.instant?

end Written

/-! ## Reading numbers -/

/-- A digit is not white space. -/
theorem isBlank_of_isDigit {c : Char} (h : c.isDigit = true) : Text.isBlank c = false := by
  have hbounds : 48 ≤ c.toNat ∧ c.toNat ≤ 57 := by
    simpa [Char.isDigit, UInt32.le_iff_toNat_le] using h
  simp only [Text.isBlank, Bool.or_eq_false_iff, Bool.and_eq_false_iff, decide_eq_false_iff_not]
  omega

/-- A digit is none of the other characters. -/
theorem ne_of_isDigit {c d : Char} (hc : c.isDigit = true) (hd : d.isDigit = false) : c ≠ d := by
  rintro rfl
  exact Bool.noConfusion (hc.symm.trans hd)

variable {width : Nat}

/-- A number that has all of its digits is read from in front of anything. -/
theorem digits?_append (field : Field width) {least : Nat} (h : least ≤ width)
    (rest : List Char) : digits? least width (field.digits ++ rest) = some (field.value, rest) := by
  have htake : (field.digits ++ rest).take width = field.digits :=
    List.take_left' field.length_digits
  have hrun : field.digits.takeWhile Char.isDigit = field.digits := by
    simpa using Text.takeWhile_append field.isDigit (Text.stops_nil Char.isDigit)
  have hdrop : (field.digits ++ rest).drop width = rest := List.drop_left' field.length_digits
  simp only [digits?, htake, hrun, field.length_digits, hdrop, Field.value, Nat.not_lt.mpr h,
    if_false]

/-- White space is not looked for in front of a number. -/
theorem dropWhile_isBlank_append (field : Field width) (hwidth : 0 < width) (rest : List Char) :
    (field.digits ++ rest).dropWhile Text.isBlank = field.digits ++ rest :=
  Text.dropWhile_eq_self fun _ hc => isBlank_of_isDigit (field.isDigit_head hwidth hc)

/-- The lenient form reads two digits as the other one does. -/
theorem lenientPart?_append (field : Field 2) (rest : List Char) :
    lenientPart? (field.digits ++ rest) = some (field.value, rest) := by
  rw [lenientPart?, dropWhile_isBlank_append field Nat.two_pos,
    digits?_append field (Nat.le_succ 1)]

/-- The lenient form reads a year of four digits as the other one does. -/
theorem lenientYear?_append (field : Field 4) (rest : List Char) :
    lenientYear? (field.digits ++ rest) = some ((field.value : Int), rest) := by
  have hhead {c : Char} {more : List Char} (h : field.digits ++ rest = c :: more) :
      c.isDigit = true :=
    field.isDigit_head (Nat.succ_pos 3) (congrArg List.head? h)
  unfold lenientYear?
  split
  next heq => exact absurd rfl (ne_of_isDigit (hhead heq) rfl)
  next heq => exact absurd rfl (ne_of_isDigit (hhead heq) rfl)
  next => rw [digits?_append field (Nat.succ_pos 3), Option.map_some]

/-- The first nine digits of a fraction, moved to the place of nanoseconds, are its whole
nanoseconds. -/
theorem Field.nanos_eq (field : Field width) :
    Text.decimalValue (field.digits.take 9) * Nat.pow 10 (9 - (field.digits.take 9).length) =
      field.value * 10 ^ 9 / 10 ^ width := by
  rw [Text.decimalValue_take field.isDigit, List.length_take, field.length_digits, Nat.pow_eq]
  change field.value / _ * _ = _
  rcases Nat.le_total width 9 with hfew | hmany
  · have hpow : 10 ^ (9 - width) * 10 ^ width = 10 ^ 9 := Nat.pow_sub_mul_pow 10 hfew
    rw [Nat.sub_eq_zero_of_le hfew, Nat.min_eq_right hfew, pow_zero, Nat.div_one, ← hpow,
      ← Nat.mul_assoc, Nat.mul_div_cancel _ (Nat.pow_pos (Nat.succ_pos 9))]
  · have hpow : 10 ^ (width - 9) * 10 ^ 9 = 10 ^ width := Nat.pow_sub_mul_pow 10 hmany
    rw [Nat.min_eq_left hmany, Nat.sub_self, pow_zero, Nat.mul_one, ← hpow,
      Nat.mul_div_mul_right _ _ (Nat.pow_pos (Nat.succ_pos 9))]

/-! ## Reading what is written -/

namespace Written

variable (written : Written)

/-- Only its sign decides what a zone continues. -/
theorem stops_zoneChars {p : Char → Bool} (hbehind : p '-' = false) (hahead : p '+' = false)
    (between : List Char) : Text.Stops p (written.zoneChars between) := by
  rw [zoneChars, Text.stops_cons]
  cases written.isBehind
  · exact hahead
  · exact hbehind

/-- The fraction is read from in front of the zone, digits beyond the ninth being left out. -/
theorem fraction?_chars (between : List Char) :
    fraction? (written.fractionChars ++ written.zoneChars between) =
      written.nanos?.map fun nanos => (nanos, written.zoneChars between) := by
  have hstops : Text.Stops Char.isDigit (written.zoneChars between) :=
    written.stops_zoneChars rfl rfl between
  cases hfraction : written.fraction with
  | none =>
    simp only [fractionChars, nanos?, hfraction, zoneChars, List.nil_append]
    cases written.isBehind <;> rfl
  | some fraction =>
    obtain ⟨width, field⟩ := fraction
    have hrun := Text.takeWhile_append field.isDigit hstops
    have hrest := Text.dropWhile_append field.isDigit hstops
    simp only [fractionChars, nanos?, hfraction, List.cons_append, fraction?, hrun, hrest]
    cases width with
    | zero => simp [List.length_eq_zero_iff.mp field.length_digits]
    | succ width =>
      have hne : ¬ field.digits.isEmpty = true := by
        rw [List.isEmpty_iff_length_eq_zero, field.length_digits]
        exact Nat.succ_ne_zero width
      simp only [if_neg hne, field.nanos_eq, Option.map_some]

/-- The zone is read whatever stands between its hours and minutes, if that separates them. -/
theorem zone?_zoneChars {separator : List Char → Option (List Char)} {between : List Char}
    (h : separator (between ++ written.zoneMinutes.digits) = some written.zoneMinutes.digits) :
    zone? separator (written.zoneChars between) =
      if written.zoneMinutes.value ≤ 59 then some (written.offset, []) else none := by
  have hminutes := digits?_append written.zoneMinutes (Nat.le_refl 2) []
  rw [List.append_nil] at hminutes
  cases hsign : written.isBehind <;>
    simp [zone?, zoneChars, zoneSign?, hsign, offset, digits?_append, h, hminutes]

/-- Only less than a day is a zone in the internet form. -/
theorem strictZone?_zoneChars : strictZone? (written.zoneChars [':']) =
    (if written.zoneMinutes.value ≤ 59 then some (written.offset, []) else none).filter
      fun (offset, _) => -86400 < offset && offset < 86400 := by
  have hcolon : after? ':' ([':'] ++ written.zoneMinutes.digits) =
      some written.zoneMinutes.digits := rfl
  rw [← written.zone?_zoneChars hcolon]
  cases hsign : written.isBehind <;> simp [strictZone?, zoneChars, hsign]

/-- Without its colon no zone is one in the internet form. -/
theorem strictZone?_zoneChars_nil : strictZone? (written.zoneChars []) = none := by
  have hcolon : after? ':' written.zoneMinutes.digits = none := by
    cases hdigits : written.zoneMinutes.digits with
    | nil => rfl
    | cons c more =>
      have hdigit : c.isDigit = true := written.zoneMinutes.isDigit c (by simp [hdigits])
      rw [after?, if_neg (ne_of_isDigit hdigit rfl)]
  cases hsign : written.isBehind <;>
    simp [strictZone?, zone?, zoneSign?, zoneChars, hsign, digits?_append, hcolon]

/-- Colons and white space in a zone make no difference to the lenient form. -/
theorem lenientZone?_zoneChars {between : List Char}
    (h : ∀ c ∈ between, (c = ':' || Text.isBlank c) = true) :
    lenientZone? (written.zoneChars between) =
      if written.zoneMinutes.value ≤ 59 then some (written.offset, []) else none := by
  have hstart : (written.zoneChars between).dropWhile Text.isBlank = written.zoneChars between :=
    Text.dropWhile_eq_self (written.stops_zoneChars rfl rfl between)
  have hstops : Text.Stops (fun c => c = ':' || Text.isBlank c) written.zoneMinutes.digits := by
    intro c hc
    have hdigit : c.isDigit = true :=
      written.zoneMinutes.isDigit c (List.mem_of_mem_head? hc)
    simp [isBlank_of_isDigit hdigit, ne_of_isDigit hdigit (d := ':') rfl]
  rw [lenientZone?, hstart]
  exact written.zone?_zoneChars (congrArg some (Text.dropWhile_append h hstops))

/-- The internet form is read if the zone is less than a day. -/
theorem strict?_chars : strict? (written.chars [':']) = written.reading?.filter fun reading =>
    -86400 < reading.offset && reading.offset < 86400 := by
  simp only [strict?, chars, digits?_append, Nat.le_refl, after?, dateEnd?, if_true,
    Option.bind_eq_bind, Option.bind_some, fraction?_chars]
  rw [reading?]
  cases written.nanos? with
  | none => simp
  | some nanos =>
    rw [Option.map_some, Option.bind_some, strictZone?_zoneChars]
    by_cases hminutes : written.zoneMinutes.value ≤ 59
    · simp only [hminutes, if_true, Option.map_some, Option.filter_some]
      split <;> rfl
    · simp [hminutes]

/-- The internet form is not read without the colon. -/
theorem strict?_chars_nil : strict? (written.chars []) = none := by
  simp only [strict?, chars, digits?_append, Nat.le_refl, after?, dateEnd?, if_true,
    Option.bind_eq_bind, Option.bind_some, fraction?_chars]
  cases written.nanos? with
  | none => rfl
  | some nanos => rw [Option.map_some, Option.bind_some, strictZone?_zoneChars_nil]; rfl

/-- The lenient form is read with or without the colon. -/
theorem lenient?_chars {between : List Char}
    (h : ∀ c ∈ between, (c = ':' || Text.isBlank c) = true) :
    lenient? (written.chars between) = written.reading? := by
  have hstart : (written.chars between).dropWhile Text.isBlank = written.chars between :=
    dropWhile_isBlank_append written.year (Nat.succ_pos 3) _
  rw [lenient?, hstart]
  simp only [chars, lenientYear?_append, lenientPart?_append, after?, if_true,
    Option.bind_eq_bind, Option.bind_some, fraction?_chars]
  rw [reading?]
  cases written.nanos? with
  | none => simp
  | some nanos =>
    rw [Option.map_some, Option.bind_some, written.lenientZone?_zoneChars h]
    by_cases hminutes : written.zoneMinutes.value ≤ 59 <;> simp [hminutes]

end Written

/-- No instant is read with a zone of a day or more, so refusing such zones before makes no
difference. -/
theorem filter_bind_instant? (reading : Option Reading) :
    (reading.filter fun reading => -86400 < reading.offset && reading.offset < 86400).bind
      Reading.instant? = reading.bind Reading.instant? := by
  cases reading with
  | none => rfl
  | some reading =>
    rw [Option.filter_some]
    split
    · rfl
    · next hfar =>
      rw [Option.bind_none, Option.bind_some, Reading.instant?, if_neg]
      simp only [Bool.and_eq_true, decide_eq_true_eq] at hfar ⊢
      exact fun hall => hfar ⟨hall.1.2, hall.2⟩

/-- Whatever digits a date, a time of day and a zone are written in, the time is read alike with the
colon in its zone and without it: as the instant that is written, or as none if there is no such
date and time. On the text with the colon the two forms agree, too. -/
theorem instant_ignores_zone_colon (written : Written) :
    instant? written.compactText = instant? written.text ∧
      instant? written.text = written.instant? ∧
      (strict? written.text.toList).bind Reading.instant? =
        (lenient? written.text.toList).bind Reading.instant? := by
  have hstrict : (strict? written.text.toList).bind Reading.instant? = written.instant? := by
    rw [Written.text, String.toList_ofList, written.strict?_chars, filter_bind_instant?]
    rfl
  have hlenient : (lenient? written.text.toList).bind Reading.instant? = written.instant? := by
    rw [Written.text, String.toList_ofList, written.lenient?_chars (by simp)]
    rfl
  have hcompact : instant? written.compactText = written.instant? := by
    rw [instant?, Written.compactText, String.toList_ofList, written.strict?_chars_nil,
      written.lenient?_chars (by simp)]
    rfl
  have htext : instant? written.text = written.instant? := by
    rw [instant?, hstrict, hlenient]
    cases written.instant? <;> rfl
  exact ⟨hcompact.trans htext.symm, htext, hstrict.trans hlenient.symm⟩

/-- A leap second with eleven digits of a fraction, in a zone ahead of universal time. -/
def leapSecond : Written where
  year := ⟨"2016".toList, rfl, by decide⟩
  month := ⟨"12".toList, rfl, by decide⟩
  day := ⟨"31".toList, rfl, by decide⟩
  hour := ⟨"23".toList, rfl, by decide⟩
  minute := ⟨"59".toList, rfl, by decide⟩
  second := ⟨"60".toList, rfl, by decide⟩
  fraction := some ⟨11, "12345678999".toList, rfl, by decide⟩
  isBehind := false
  zoneHours := ⟨"05".toList, rfl, by decide⟩
  zoneMinutes := ⟨"30".toList, rfl, by decide⟩

example : leapSecond.text = "2016-12-31T23:59:60.12345678999+05:30" ∧
    instant? leapSecond.compactText = some ⟨1483208999, 1123456789⟩ := by decide +kernel

end ReleaseStaging.Calendar
