import ReleaseStaging.Text.Blank
import ReleaseStaging.Text.Scan

/-!
# Where scanning stops

A reader that takes as many characters as it can stops exactly where the next character is of
another kind. So a run of one kind is found again in front of anything that does not continue it,
and a literal in front of its quote.
-/

namespace ReleaseStaging.Text

/-- No character of a kind stands in front. -/
def Stops (p : Char → Bool) (rest : List Char) : Prop :=
  ∀ c, rest.head? = some c → p c = false

theorem stops_nil (p : Char → Bool) : Stops p [] := nofun

@[simp] theorem stops_cons {p : Char → Bool} {c : Char} {rest : List Char} :
    Stops p (c :: rest) ↔ p c = false := by
  simp [Stops]

/-- What does not continue a run of a kind does not continue one of a narrower kind. -/
theorem Stops.mono {p q : Char → Bool} {rest : List Char} (h : Stops q rest)
    (hnarrower : ∀ c, q c = false → p c = false) : Stops p rest :=
  fun c hc => hnarrower c (h c hc)

/-- What is left after a run does not continue it. -/
theorem stops_dropWhile (p : Char → Bool) (text : List Char) : Stops p (text.dropWhile p) := by
  intro c hc
  simpa [hc] using List.head?_dropWhile_not p text

/-- A run is taken whole from in front of what does not continue it. -/
theorem takeWhile_append {p : Char → Bool} {run rest : List Char} (h : ∀ c ∈ run, p c = true)
    (hrest : Stops p rest) : (run ++ rest).takeWhile p = run := by
  rw [List.takeWhile_append_of_pos h]
  cases rest with
  | nil => simp
  | cons c rest => simp [stops_cons.mp hrest]

theorem dropWhile_eq_self {p : Char → Bool} {rest : List Char} (h : Stops p rest) :
    rest.dropWhile p = rest := by
  cases rest with
  | nil => rfl
  | cons c rest => simp [stops_cons.mp h]

/-- What does not continue a run is left after it. -/
theorem dropWhile_append {p : Char → Bool} {run rest : List Char} (h : ∀ c ∈ run, p c = true)
    (hrest : Stops p rest) : (run ++ rest).dropWhile p = rest := by
  rw [List.dropWhile_append_of_pos h, dropWhile_eq_self hrest]

/-- A text is a run of a kind and what is left after it. -/
theorem exists_run (p : Char → Bool) (text : List Char) :
    ∃ run, text = run ++ text.dropWhile p ∧ ∀ c ∈ run, p c = true :=
  ⟨text.takeWhile p, List.takeWhile_append_dropWhile.symm,
    List.all_eq_true.mp List.all_takeWhile⟩

/-- Only the first character of a text decides what it continues. -/
theorem stops_append {p : Char → Bool} {text : List Char} (hne : text ≠ []) (h : Stops p text)
    (rest : List Char) : Stops p (text ++ rest) := by
  cases text with
  | nil => exact absurd rfl hne
  | cons c text => exact stops_cons.mpr (stops_cons.mp h)

/-! ## Outermost characters -/

/-- The text has outermost characters, and they are not blank. -/
def IsTight (text : List Char) : Prop :=
  text ≠ [] ∧ Stops isBlank text ∧ Stops isBlank text.reverse

/-- A text without blank characters is tight. -/
theorem isTight_of_forall {text : List Char} (hne : text ≠ [])
    (h : ∀ c ∈ text, isBlank c = false) : IsTight text := by
  refine ⟨hne, ?_, ?_⟩
  · intro c hc
    exact h c (List.mem_of_mem_head? hc)
  · intro c hc
    exact h c (List.mem_reverse.mp (List.mem_of_mem_head? hc))

theorem isTight_singleton {c : Char} (h : isBlank c = false) : IsTight [c] :=
  ⟨List.cons_ne_nil c [], stops_cons.mpr h, stops_cons.mpr h⟩

/-- Only the outermost characters decide whether a text is tight. -/
theorem isTight_between {first last : Char} (hfirst : isBlank first = false)
    (hlast : isBlank last = false) (inner : List Char) :
    IsTight (first :: (inner ++ [last])) := by
  refine ⟨List.cons_ne_nil _ _, stops_cons.mpr hfirst, ?_⟩
  rw [← List.cons_append, List.reverse_append]
  exact stops_cons.mpr hlast

theorem IsTight.append {text rest : List Char} (h : IsTight text) (hrest : IsTight rest) :
    IsTight (text ++ rest) := by
  obtain ⟨hne, hfirst, _⟩ := h
  obtain ⟨hne', _, hlast⟩ := hrest
  refine ⟨List.append_ne_nil_of_left_ne_nil hne rest, stops_append hne hfirst rest, ?_⟩
  rw [List.reverse_append]
  exact stops_append (by simpa using hne') hlast text.reverse

/-- Nothing is trimmed from a tight text. -/
theorem IsTight.trim_eq {text : List Char} (h : IsTight text) : trim text = text := by
  obtain ⟨_, hfirst, hlast⟩ := h
  rw [trim, dropWhile_eq_self hfirst, trimEnd, dropWhile_eq_self hlast, List.reverse_reverse]

/-! ## Stops of one character -/

/-- The characters before a stop of one character that does not occur among them. -/
theorem upTo_singleton {allowed : Char → Bool} {stop : Char} {before rest : List Char}
    (hallowed : ∀ c ∈ before, allowed c = true) (hstop : stop ∉ before) :
    upTo allowed [stop] (before ++ stop :: rest) = some (before, rest) := by
  induction before with
  | nil => simp [upTo, after?]
  | cons c before ih =>
    obtain ⟨hne, hfree⟩ : stop ≠ c ∧ stop ∉ before := by simpa using hstop
    have hrec := ih (fun d hd => hallowed d (List.mem_cons_of_mem c hd)) hfree
    simp [upTo, after?, hne, hallowed c List.mem_cons_self, hrec]

/-- The characters before a stop of one character do not hold it. -/
theorem not_mem_of_upTo_singleton {allowed : Char → Bool} {stop : Char}
    {text before rest : List Char} (h : upTo allowed [stop] text = some (before, rest)) :
    stop ∉ before := by
  induction text generalizing before with
  | nil => simp [upTo] at h
  | cons c text ih =>
    by_cases hc : stop = c
    · obtain ⟨rfl, _⟩ : [] = before ∧ text = rest := by simpa [upTo, after?, hc] using h
      exact List.not_mem_nil
    · cases hallowed : allowed c with
      | false => simp [upTo, after?, hc, hallowed] at h
      | true =>
        simp only [upTo, after?, if_neg hc, hallowed, if_true] at h
        obtain ⟨⟨content, r⟩, hcut, heq⟩ := Option.map_eq_some_iff.mp h
        obtain ⟨rfl, rfl⟩ : c :: content = before ∧ r = rest := by simpa using heq
        simpa [hc] using ih hcut

/-! ## Occurrences -/

/-- A part occurs in a text if the text is something, the part and something. -/
theorem occurs_iff {part text : List Char} : occurs part text = true ↔ part <:+: text := by
  induction text with
  | nil => rw [occurs, List.isEmpty_iff, List.infix_nil]
  | cons c text ih =>
    rw [occurs, Bool.or_eq_true, ih, List.isPrefixOf_iff_prefix, List.infix_cons_iff]

end ReleaseStaging.Text
