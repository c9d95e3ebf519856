import Mathlib.Data.Prod.Lex
import ReleaseStaging.Capability
import ReleaseStaging.Proofs.Text.Fields
import ReleaseStaging.Proofs.Text.Scanning

/-!
# Versions and releases

A version names a release by the numbers at the start of its first two components. The server works
in the background from release 2.4 on, and that is what is made of its version as long as the
numbers fit into 64 bits: a longer major number makes the version unrecognised, and a longer minor
number counts as zero.
Main statement: `isAsyncVersion_lawful_iff`.
-/

namespace ReleaseStaging

namespace Text

/-- A text starts with a number: with a run of digits of any length that no digit follows. -/
def StartsWithNumber (text : List Char) (number : Nat) : Prop :=
  ∃ digits rest, text = digits ++ rest ∧ digits ≠ [] ∧ (∀ c ∈ digits, c.isDigit = true) ∧
    Stops Char.isDigit rest ∧ decimalValue digits = number

/-- The number that a text starts with is the value of its leading digits. -/
theorem natural?_takeWhile_eq_some_iff {text : List Char} {number : Nat} :
    natural? (text.takeWhile Char.isDigit) = some number ↔ StartsWithNumber text number := by
  constructor
  · intro h
    obtain ⟨hne, hvalue⟩ : text.takeWhile Char.isDigit ≠ [] ∧
        decimalValue (text.takeWhile Char.isDigit) = number := by
      simpa [natural?] using h
    exact ⟨_, _, List.takeWhile_append_dropWhile.symm, hne,
      List.all_eq_true.mp List.all_takeWhile, stops_dropWhile Char.isDigit text, hvalue⟩
  · rintro ⟨digits, rest, rfl, hne, hdigits, hrest, rfl⟩
    simp [takeWhile_append hdigits hrest, natural?, hne]
    exact hdigits

/-- A text starts with one number only. -/
theorem StartsWithNumber.unique {text : List Char} {a b : Nat} (ha : StartsWithNumber text a)
    (hb : StartsWithNumber text b) : a = b := by
  rw [← natural?_takeWhile_eq_some_iff] at ha hb
  exact Option.some.inj (ha.symm.trans hb)

/-- A text starts with a number if its first character is a digit. -/
theorem exists_startsWithNumber_iff {text : List Char} :
    (∃ number, StartsWithNumber text number) ↔
      ∃ c rest, text = c :: rest ∧ c.isDigit = true := by
  constructor
  · rintro ⟨number, digits, rest, rfl, hne, hdigits, -, -⟩
    obtain ⟨c, digits, rfl⟩ := List.exists_cons_of_ne_nil hne
    exact ⟨c, digits ++ rest, rfl, hdigits c List.mem_cons_self⟩
  · rintro ⟨c, rest, rfl, hdigit⟩
    obtain ⟨digits, htext, hdigits⟩ := exists_run Char.isDigit (c :: rest)
    refine ⟨_, digits, _, htext, ?_, hdigits, stops_dropWhile Char.isDigit (c :: rest), rfl⟩
    rintro rfl
    rw [List.nil_append, List.dropWhile_cons_of_pos hdigit] at htext
    have hle := length_dropWhile_le Char.isDigit rest
    rw [← htext, List.length_cons] at hle
    omega

/-- A number that a text starts with is read if it fits. -/
theorem StartsWithNumber.leadingNumber?_eq {text : List Char} {number : Nat}
    (h : StartsWithNumber text number) :
    leadingNumber? text = if number < UInt64.size then some number else none := by
  rw [leadingNumber?, natural?_takeWhile_eq_some_iff.mpr h, Option.filter]
  simp only [decide_eq_true_eq]

/-- Where a text starts with no number, none is read. -/
theorem leadingNumber?_eq_none {text : List Char} (h : ∀ number, ¬ StartsWithNumber text number) :
    leadingNumber? text = none := by
  have hnone : natural? (text.takeWhile Char.isDigit) = none :=
    Option.eq_none_iff_forall_ne_some.mpr fun number hnumber =>
      h number (natural?_takeWhile_eq_some_iff.mp hnumber)
  rw [leadingNumber?, hnone, Option.filter]

end Text

/-- The components of a version, between dots; white space around it does not matter. -/
def versionComponents (version : String) : List (List Char) :=
  (Text.trim version.toList).splitOn '.'

/-- A version names a release by the numbers at the start of its first two components; the minor
number is zero if there is no second component or it starts with no digit. -/
structure NamesRelease (version : String) (major minor : Nat) : Prop where
  /-- The first component starts with the major number. -/
  major : ∃ component, (versionComponents version)[0]? = some component ∧
    Text.StartsWithNumber component major
  /-- The second component starts with the minor number, unless there is none. -/
  minor : (∃ component, (versionComponents version)[1]? = some component ∧
      Text.StartsWithNumber component minor) ∨
    minor = 0 ∧ ∀ component, (versionComponents version)[1]? = some component →
      ∀ number, ¬ Text.StartsWithNumber component number

/-- Whether a server of some version works in the background is decided by the first two
components. -/
theorem isAsyncVersion_eq (version : String) :
    isAsyncVersion version =
      match (versionComponents version)[0]?.bind Text.leadingNumber? with
      | none => .error (.unrecognisedVersion version)
      | some major => .ok (decide (toLex (2, 4) ≤ toLex
          (major, ((versionComponents version)[1]?.bind Text.leadingNumber?).getD 0))) := by
  rw [isAsyncVersion, Text.fields_eq_splitOn, ← versionComponents]
  cases versionComponents version with
  | nil => rfl
  | cons first rest =>
    cases hmajor : Text.leadingNumber? first with
    | none => simp [hmajor]
    | some major =>
      have hsymm : (major == 2) = decide (2 = major) := by
        rw [Bool.eq_iff_iff, beq_iff_eq, decide_eq_true_iff, eq_comm]
      simp [hmajor, hsymm, Prod.Lex.toLex_le_toLex, List.head?_eq_getElem?]

namespace NamesRelease

variable {version other : String} {major minor major' minor' : Nat}

/-- The major number is read if it fits. -/
theorem major_eq (h : NamesRelease version major minor) :
    (versionComponents version)[0]?.bind Text.leadingNumber? =
      if major < UInt64.size then some major else none := by
  obtain ⟨component, hcomponent, hnumber⟩ := h.major
  rw [hcomponent, Option.bind_some, hnumber.leadingNumber?_eq]

/-- The minor number is read if it fits, and otherwise counts as zero. -/
theorem minor_eq (h : NamesRelease version major minor) :
    ((versionComponents version)[1]?.bind Text.leadingNumber?).getD 0 =
      if minor < UInt64.size then minor else 0 := by
  rcases h.minor with ⟨component, hcomponent, hnumber⟩ | ⟨rfl, hnone⟩
  · rw [hcomponent, Option.bind_some, hnumber.leadingNumber?_eq]
    split <;> rfl
  · rw [ite_self]
    cases hcomponent : (versionComponents version)[1]? with
    | none => rfl
    | some component =>
      rw [Option.bind_some, Text.leadingNumber?_eq_none (hnone component hcomponent)]
      rfl

/-- What is made of a version that names a release. -/
theorem isAsyncVersion_eq (h : NamesRelease version major minor) :
    isAsyncVersion version =
      if major < UInt64.size then
        .ok (decide (toLex (2, 4) ≤ toLex (major, if minor < UInt64.size then minor else 0)))
      else .error (.unrecognisedVersion version) := by
  rw [ReleaseStaging.isAsyncVersion_eq, h.major_eq, h.minor_eq]
  by_cases hfits : major < UInt64.size
  · simp only [if_pos hfits]
  · simp only [if_neg hfits]

/-- What is made of a version is right unless its major number does not fit, or its minor number
does not fit and decides. -/
theorem isAsyncVersion_lawful (h : NamesRelease version major minor) :
    isAsyncVersion version = .ok (decide (toLex (2, 4) ≤ toLex (major, minor))) ↔
      major < UInt64.size ∧ (major = 2 → minor < UInt64.size) := by
  rw [h.isAsyncVersion_eq]
  by_cases hfits : major < UInt64.size
  · by_cases hminor : minor < UInt64.size
    · simp [hfits, hminor]
    · have hsize : 4 < UInt64.size := by decide
      simp only [if_pos hfits, if_neg hminor, Prod.Lex.toLex_le_toLex, Except.ok.injEq,
        decide_eq_decide]
      omega
  · simp [hfits]

/-- No server is taken to work in the background before release 2.4. -/
theorem le_of_isAsyncVersion (h : NamesRelease version major minor)
    (hasync : isAsyncVersion version = .ok true) : toLex (2, 4) ≤ toLex (major, minor) := by
  rw [h.isAsyncVersion_eq] at hasync
  by_cases hfits : major < UInt64.size
  · have hread : toLex (2, 4) ≤ toLex (major, if minor < UInt64.size then minor else 0) := by
      simpa [hfits] using hasync
    rw [Prod.Lex.toLex_le_toLex] at hread ⊢
    refine hread.imp_right fun ⟨hmajor, hminor⟩ => ⟨hmajor, ?_⟩
    split at hminor <;> omega
  · rw [if_neg hfits] at hasync
    cases hasync

/-- A version names one release only. -/
theorem unique (h : NamesRelease version major minor) (h' : NamesRelease version major' minor') :
    major = major' ∧ minor = minor' := by
  constructor
  · obtain ⟨component, hcomponent, hnumber⟩ := h.major
    obtain ⟨same, hsame, hnumber'⟩ := h'.major
    obtain rfl : component = same := Option.some.inj (hcomponent.symm.trans hsame)
    exact hnumber.unique hnumber'
  · rcases h.minor with ⟨component, hcomponent, hnumber⟩ | ⟨rfl, hnone⟩ <;>
      rcases h'.minor with ⟨same, hsame, hnumber'⟩ | ⟨rfl, hnone'⟩
    · obtain rfl : component = same := Option.some.inj (hcomponent.symm.trans hsame)
      exact hnumber.unique hnumber'
    · exact absurd hnumber (hnone' component hcomponent minor)
    · exact absurd hnumber' (hnone same hsame minor')
    · rfl

end NamesRelease

/-- A version names a release if its first component starts with a digit. -/
theorem exists_namesRelease_iff {version : String} :
    (∃ major minor, NamesRelease version major minor) ↔
      ∃ c rest, (versionComponents version)[0]? = some (c :: rest) ∧ c.isDigit = true := by
  constructor
  · rintro ⟨major, minor, ⟨component, hcomponent, hnumber⟩, -⟩
    obtain ⟨c, rest, rfl, hdigit⟩ := Text.exists_startsWithNumber_iff.mp ⟨major, hnumber⟩
    exact ⟨c, rest, hcomponent, hdigit⟩
  · rintro ⟨c, rest, hcomponent, hdigit⟩
    obtain ⟨major, hmajor⟩ := Text.exists_startsWithNumber_iff.mpr ⟨c, rest, rfl, hdigit⟩
    by_cases hminor : ∃ component minor, (versionComponents version)[1]? = some component ∧
        Text.StartsWithNumber component minor
    · obtain ⟨component, minor, hsecond, hnumber⟩ := hminor
      exact ⟨major, minor, ⟨_, hcomponent, hmajor⟩, .inl ⟨component, hsecond, hnumber⟩⟩
    · refine ⟨major, 0, ⟨_, hcomponent, hmajor⟩, .inr ⟨rfl, ?_⟩⟩
      intro component hsecond number hnumber
      exact hminor ⟨component, number, hsecond, hnumber⟩

/-- A version that names no release is not recognised. -/
theorem isAsyncVersion_eq_error {version : String}
    (h : ¬ ∃ major minor, NamesRelease version major minor) :
    isAsyncVersion version = .error (.unrecognisedVersion version) := by
  rw [isAsyncVersion_eq]
  cases hfirst : (versionComponents version)[0]? with
  | none => rfl
  | some component =>
    have hnone : Text.leadingNumber? component = none := by
      refine Text.leadingNumber?_eq_none fun number hnumber => h ?_
      obtain ⟨c, rest, rfl, hdigit⟩ := Text.exists_startsWithNumber_iff.mp ⟨number, hnumber⟩
      exact exists_namesRelease_iff.mpr ⟨c, rest, hfirst, hdigit⟩
    rw [Option.bind_some, hnone]

/-- A version whose first component starts with a digit names one release, and the server works in
the background exactly from release 2.4 on, except that a major number that does not fit into 64
bits makes the version unrecognised and a minor one counts as zero; every other version is
unrecognised. Of two versions whose numbers fit, the later release is not without what the earlier
one has. -/
theorem isAsyncVersion_lawful_iff (version : String) :
    ((∃ c rest, (versionComponents version)[0]? = some (c :: rest) ∧ c.isDigit = true) →
      ∃ major minor, NamesRelease version major minor ∧
        (∀ major' minor', NamesRelease version major' minor' → major' = major ∧ minor' = minor) ∧
        isAsyncVersion version = (if major < UInt64.size then
            .ok (decide (toLex (2, 4) ≤ toLex (major, if minor < UInt64.size then minor else 0)))
          else .error (.unrecognisedVersion version)) ∧
        (isAsyncVersion version = .ok (decide (toLex (2, 4) ≤ toLex (major, minor))) ↔
          major < UInt64.size ∧ (major = 2 → minor < UInt64.size))) ∧
    ((¬ ∃ c rest, (versionComponents version)[0]? = some (c :: rest) ∧ c.isDigit = true) →
      isAsyncVersion version = .error (.unrecognisedVersion version)) ∧
    ∀ other major minor major' minor', NamesRelease version major minor →
      NamesRelease other major' minor' → major' < UInt64.size →
      (major' = 2 → minor' < UInt64.size) →
      toLex (major, minor) ≤ toLex (major', minor') →
      isAsyncVersion version = .ok true → isAsyncVersion other = .ok true := by
  refine ⟨?_, ?_, ?_⟩
  · intro hdigit
    obtain ⟨major, minor, hnames⟩ := exists_namesRelease_iff.mpr hdigit
    exact ⟨major, minor, hnames, fun _ _ h => h.unique hnames, hnames.isAsyncVersion_eq,
      hnames.isAsyncVersion_lawful⟩
  · intro hnone
    exact isAsyncVersion_eq_error (mt exists_namesRelease_iff.mp hnone)
  · intro other major minor major' minor' hnames hother hmajor hminor hle hasync
    have hlate := (hnames.le_of_isAsyncVersion hasync).trans hle
    rw [hother.isAsyncVersion_lawful.mpr ⟨hmajor, hminor⟩, decide_eq_true hlate]

/-- A minor number beyond 64 bits is taken for zero, although the release is later than 2.4; a major
number beyond 64 bits makes the version unrecognised. -/
theorem isAsyncVersion_forgets_long_numbers :
    NamesRelease "2.18446744073709551616" 2 18446744073709551616 ∧
      isAsyncVersion "2.18446744073709551616" ≠
        .ok (decide (toLex (2, 4) ≤ toLex (2, 18446744073709551616))) ∧
      NamesRelease "18446744073709551616.0" 18446744073709551616 0 ∧
      isAsyncVersion "18446744073709551616.0" ≠
        .ok (decide (toLex (2, 4) ≤ toLex (18446744073709551616, 0))) := by
  have hminor : NamesRelease "2.18446744073709551616" 2 18446744073709551616 :=
    ⟨⟨['2'], rfl, Text.natural?_takeWhile_eq_some_iff.mp (by decide)⟩,
      .inl ⟨"18446744073709551616".toList, rfl, Text.natural?_takeWhile_eq_some_iff.mp (by decide)⟩⟩
  have hmajor : NamesRelease "18446744073709551616.0" 18446744073709551616 0 :=
    ⟨⟨"18446744073709551616".toList, rfl, Text.natural?_takeWhile_eq_some_iff.mp (by decide)⟩,
      .inl ⟨['0'], rfl, Text.natural?_takeWhile_eq_some_iff.mp (by decide)⟩⟩
  refine ⟨hminor, ?_, hmajor, ?_⟩
  · rw [ne_eq, hminor.isAsyncVersion_lawful]
    decide
  · rw [ne_eq, hmajor.isAsyncVersion_lawful]
    decide

end ReleaseStaging
