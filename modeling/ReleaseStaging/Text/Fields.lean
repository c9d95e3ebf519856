/-!
# Fields between separators

A text is cut at every separator; the fields joined by the separator give the text back.
-/

namespace ReleaseStaging.Text

/-- The fields between the separators; a text without a separator is one field. -/
def fields (separator : Char) : List Char → List (List Char)
  | [] => [[]]
  | c :: rest =>
    if c = separator then [] :: fields separator rest
    else match fields separator rest with
      | [] => [[c]]
      | field :: others => (c :: field) :: others

/-- A text has at least one field. -/
theorem fields_ne_nil (separator : Char) (text : List Char) : fields separator text ≠ [] := by
  cases text with
  | nil => simp [fields]
  | cons c rest =>
    simp only [fields]
    split
    · simp
    · split <;> simp

/-- Joining the fields by the separator gives the text back. -/
theorem intercalate_fields (separator : Char) (text : List Char) :
    [separator].intercalate (fields separator text) = text := by
  induction text with
  | nil => simp [fields, List.intercalate]
  | cons c rest ih =>
    simp only [fields]
    split
    · next h =>
      subst h
      cases hf : fields c rest with
      | nil => exact absurd hf (fields_ne_nil c rest)
      | cons field others =>
        rw [hf] at ih
        simp only [List.intercalate] at ih ⊢
        simp [List.intersperse, ih]
    · cases hf : fields separator rest with
      | nil => exact absurd hf (fields_ne_nil separator rest)
      | cons field others =>
        rw [hf] at ih
        simp only [List.intercalate] at ih ⊢
        cases others <;> simp_all [List.intersperse]

/-- The fields of a text, as texts. -/
def fieldsOf (separator : Char) (text : String) : List String :=
  (fields separator text.toList).map String.ofList

end ReleaseStaging.Text
