import ReleaseStaging.Text.Fields

/-!
# What the fields of a text are

The fields of a text are told by what they are: there is no separator in them, and joined by the
separator they give the text back.
-/

namespace ReleaseStaging.Text

/-- The fields between separators are what splitting at the separator gives. -/
theorem fields_eq_splitOn (separator : Char) (text : List Char) :
    fields separator text = text.splitOn separator := by
  rw [List.splitOn]
  induction text with
  | nil => rfl
  | cons c text ih =>
    rw [fields, List.splitOnP_cons_eq_if_modifyHead, ← ih]
    by_cases hc : c = separator
    · simp [hc]
    · cases hfields : fields separator text with
      | nil => exact absurd hfields (fields_ne_nil separator text)
      | cons field others => simp [hc]

/-- No field has a separator in it. -/
theorem notMem_of_mem_fields {separator : Char} {text field : List Char}
    (h : field ∈ fields separator text) : separator ∉ field := by
  induction text generalizing field with
  | nil =>
    obtain rfl : field = [] := by simpa [fields] using h
    exact List.not_mem_nil
  | cons c text ih =>
    rw [fields] at h
    by_cases hc : c = separator
    · rw [if_pos hc, List.mem_cons] at h
      rcases h with rfl | hfield
      · exact List.not_mem_nil
      · exact ih hfield
    · rw [if_neg hc] at h
      cases hfields : fields separator text with
      | nil => exact absurd hfields (fields_ne_nil separator text)
      | cons first others =>
        simp only [hfields, List.mem_cons] at h ih
        rcases h with rfl | hother
        · exact List.not_mem_cons_of_ne_of_not_mem (Ne.symm hc) (ih (.inl rfl))
        · exact ih (.inr hother)

/-- Texts are the parts of a text between separators: they have no separator in them, and joined by
it they are the text. -/
structure AreParts (separator : Char) (text : String) (parts : List String) : Prop where
  /-- There is a part, which may be empty. -/
  ne_nil : parts ≠ []
  /-- No part goes on beyond a separator. -/
  apart : ∀ part ∈ parts, separator ∉ part.toList
  /-- Nothing is lost. -/
  joined : (String.singleton separator).intercalate parts = text

/-- The fields of a text are its parts. -/
theorem fieldsOf_eq_iff {separator : Char} {text : String} {parts : List String} :
    fieldsOf separator text = parts ↔ AreParts separator text parts := by
  constructor
  · rintro rfl
    refine ⟨?_, ?_, ?_⟩
    · rw [fieldsOf, ne_eq, List.map_eq_nil_iff]
      exact fields_ne_nil separator text.toList
    · intro part hpart
      obtain ⟨field, hfield, rfl⟩ := List.mem_map.mp hpart
      rw [String.toList_ofList]
      exact notMem_of_mem_fields hfield
    · have hfields :
          (fieldsOf separator text).map String.toList = fields separator text.toList := by
        simp [fieldsOf]
      rw [← String.toList_inj, String.toList_intercalate, hfields, String.toList_singleton]
      exact intercalate_fields separator text.toList
  · rintro ⟨hne, hapart, rfl⟩
    rw [fieldsOf, fields_eq_splitOn, String.toList_intercalate, String.toList_singleton,
      List.splitOn_intercalate]
    · simp
    · simpa using hapart
    · simpa using hne

end ReleaseStaging.Text
