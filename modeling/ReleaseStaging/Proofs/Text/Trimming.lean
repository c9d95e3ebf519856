import Mathlib.Data.List.TakeWhile
import ReleaseStaging.Proofs.Text.Scanning

/-!
# Trimming

White space at either end of a text makes no difference once the text is trimmed. So a text can be
trimmed before it is trimmed, by the same or by a narrower notion of white space.
-/

namespace ReleaseStaging.Text

/-- Only blank characters are trimmed from an end. -/
theorem exists_trimEnd_append (text : List Char) :
    ∃ blanks, text = trimEnd text ++ blanks ∧ ∀ c ∈ blanks, isBlank c = true := by
  obtain ⟨run, htext, hblank⟩ := exists_run isBlank text.reverse
  refine ⟨run.reverse, ?_, fun c hc => hblank c (List.mem_reverse.mp hc)⟩
  rw [trimEnd, ← List.reverse_append, ← htext, List.reverse_reverse]

/-- Blank characters at the end make no difference to what is trimmed there. -/
theorem trimEnd_append {text blanks : List Char} (h : ∀ c ∈ blanks, isBlank c = true) :
    trimEnd (text ++ blanks) = trimEnd text := by
  have hblank : ∀ c ∈ blanks.reverse, isBlank c = true :=
    fun c hc => h c (List.mem_reverse.mp hc)
  rw [trimEnd, List.reverse_append, List.dropWhile_append_of_pos hblank, trimEnd]

/-- Blank characters at either end make no difference to a trimmed text. -/
theorem trim_surrounded {before text after : List Char} (hbefore : ∀ c ∈ before, isBlank c = true)
    (hafter : ∀ c ∈ after, isBlank c = true) : trim (before ++ text ++ after) = trim text := by
  rw [List.append_assoc, trim, List.dropWhile_append_of_pos hbefore, List.dropWhile_append, trim]
  split
  · next hnone =>
    rw [List.isEmpty_iff] at hnone
    rw [hnone, List.dropWhile_eq_nil_iff.mpr hafter]
  · exact trimEnd_append hafter

/-- A trimmed text is the text between blank characters. -/
theorem exists_trim_surrounded (text : List Char) :
    ∃ before after, text = before ++ trim text ++ after ∧ (∀ c ∈ before, isBlank c = true) ∧
      ∀ c ∈ after, isBlank c = true := by
  obtain ⟨before, htext, hbefore⟩ := exists_run isBlank text
  obtain ⟨after, hrest, hafter⟩ := exists_trimEnd_append (text.dropWhile isBlank)
  exact ⟨before, after, by rw [List.append_assoc, trim, ← hrest, ← htext], hbefore, hafter⟩

/-- A second trimming changes nothing. -/
theorem trim_trim (text : List Char) : trim (trim text) = trim text := by
  obtain ⟨before, after, htext, hbefore, hafter⟩ := exists_trim_surrounded text
  rw [← trim_surrounded hbefore hafter, ← htext]

theorem trimmed_trimmed (text : String) : trimmed (trimmed text) = trimmed text := by
  rw [trimmed, trimmed, String.toList_ofList, trim_trim]

end ReleaseStaging.Text
