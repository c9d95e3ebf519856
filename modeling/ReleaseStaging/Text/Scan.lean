/-!
# Scanning characters

The small steps of which readers are made: a fixed lead at the start of the characters, and all
characters up to a fixed stop.
Main statements: both give back the characters they were given, cut where they say.
-/

namespace ReleaseStaging.Text

/-- Whether something holds of all characters of a text is found out along the text, and not by
trying every character there is. -/
instance decidableForallMem (p : Char → Prop) [DecidablePred p] (text : List Char) :
    Decidable (∀ c ∈ text, p c) :=
  List.decidableBAll p text

/-- What follows the lead, if the characters start with it. -/
def after? : List Char → List Char → Option (List Char)
  | [], text => some text
  | _ :: _, [] => none
  | p :: lead, c :: text => if p = c then after? lead text else none

/-- A lead is found exactly where it stands. -/
theorem after?_eq_some_iff {lead text rest : List Char} :
    after? lead text = some rest ↔ text = lead ++ rest := by
  induction lead generalizing text with
  | nil => simp [after?]
  | cons p lead ih =>
    cases text with
    | nil => simp [after?]
    | cons c text =>
      by_cases h : p = c
      · simp [after?, h, ih]
      · simp [after?, h, Ne.symm h]

@[simp] theorem after?_append (lead rest : List Char) : after? lead (lead ++ rest) = some rest :=
  after?_eq_some_iff.mpr rfl

/-- The characters before the first occurrence of the stop and those after it, if all characters
before it are allowed. -/
def upTo (allowed : Char → Bool) (stop : List Char) : List Char → Option (List Char × List Char)
  | [] => none
  | c :: text =>
    match after? stop (c :: text) with
    | some rest => some ([], rest)
    | none =>
      if allowed c then (upTo allowed stop text).map fun cut => (c :: cut.1, cut.2) else none

/-- Nothing is lost: the two parts around the stop give the text back. -/
theorem eq_of_upTo {allowed : Char → Bool} {stop text before rest : List Char}
    (h : upTo allowed stop text = some (before, rest)) : text = before ++ stop ++ rest := by
  induction text generalizing before with
  | nil => simp [upTo] at h
  | cons c text ih =>
    rw [upTo] at h
    split at h
    · next r hr =>
      obtain ⟨rfl, rfl⟩ : [] = before ∧ r = rest := by simpa using h
      simpa using after?_eq_some_iff.mp hr
    · split at h
      · obtain ⟨cut, hcut, heq⟩ := Option.map_eq_some_iff.mp h
        obtain ⟨rfl, rfl⟩ : c :: cut.1 = before ∧ cut.2 = rest := by simpa using heq
        simp [ih hcut]
      · simp at h

/-- What follows a stop that is not empty is shorter than the text. -/
theorem length_lt_of_upTo {allowed : Char → Bool} {stop text before rest : List Char}
    (hstop : stop ≠ []) (h : upTo allowed stop text = some (before, rest)) :
    rest.length < text.length := by
  have := List.length_pos_iff.mpr hstop
  rw [eq_of_upTo h]
  simp only [List.length_append]
  omega

/-- What follows a lead is not longer than the text. -/
theorem length_of_after? {lead text rest : List Char} (h : after? lead text = some rest) :
    text.length = lead.length + rest.length := by
  rw [after?_eq_some_iff.mp h, List.length_append]

/-- Dropping characters makes no text longer. -/
theorem length_dropWhile_le (p : Char → Bool) (text : List Char) :
    (text.dropWhile p).length ≤ text.length :=
  (List.dropWhile_sublist p).length_le

/-- Dropping at least one character makes a text shorter. -/
theorem length_dropWhile_lt {p : Char → Bool} {text : List Char} (h : text.takeWhile p ≠ []) :
    (text.dropWhile p).length < text.length := by
  have hsum := congrArg List.length (List.takeWhile_append_dropWhile (p := p) (l := text))
  have hpos := List.length_pos_iff.mpr h
  rw [List.length_append] at hsum
  omega

/-- Whether the characters occur next to each other in a text. -/
def occurs (part : List Char) : List Char → Bool
  | [] => part.isEmpty
  | c :: text => part.isPrefixOf (c :: text) || occurs part text

end ReleaseStaging.Text
