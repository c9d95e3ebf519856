import ReleaseStaging.Proofs.Text.Scanning
import ReleaseStaging.Xml.Quotation

/-!
# The sections that hold a text

A quoted text is spread over sections, each of which ends where its content meets the first end of
a section. Together the contents are the text, and reading line ends section by section is the same
as reading them in the text, since no section is cut at a line end.
Main statement: `quoted_reads_back`. Reading section after section gives the text back and stops
where it was quoted to, whatever the text holds and whatever follows it.
-/

namespace ReleaseStaging.Xml

/-- The content of the first section that holds a text, and those of the further ones. -/
def sectionsFrom : List Char → List Char × List (List Char)
  | ']' :: ']' :: '>' :: text =>
    ([']', ']'], ('>' :: (sectionsFrom text).1) :: (sectionsFrom text).2)
  | c :: text => (c :: (sectionsFrom text).1, (sectionsFrom text).2)
  | [] => ([], [])

/-- The contents of the sections that hold a text. -/
def sections (text : List Char) : List (List Char) :=
  (sectionsFrom text).1 :: (sectionsFrom text).2

/-- A section with the given content. -/
def sectionText (content : List Char) : List Char :=
  quotationOpen ++ content ++ quotationClose

/-- The quoted sections that hold a text are the sections with its contents. -/
theorem quotations_eq (text : List Char) :
    quotations text = (sections text).flatMap sectionText := by
  have hsplit : splitQuotations text ++ quotationClose =
      (sectionsFrom text).1 ++ quotationClose ++ (sectionsFrom text).2.flatMap sectionText := by
    fun_induction sectionsFrom text with
    | case1 text ih =>
      rw [splitQuotations]
      simp only [List.flatMap_cons, sectionText, List.cons_append, List.append_assoc]
      rw [ih]
      simp only [List.append_assoc]
    | case2 c text hc ih =>
      rw [splitQuotations, List.cons_append, ih]
      · rfl
      · exact hc
    | case3 => rfl
  rw [quotations, List.append_assoc, hsplit, sections, List.flatMap_cons, sectionText]
  simp only [List.append_assoc]

/-- The contents of the sections are the text. -/
theorem flatten_sections (text : List Char) : (sections text).flatten = text := by
  rw [sections, List.flatten_cons]
  fun_induction sectionsFrom text with
  | case1 text ih => simpa using ih
  | case2 c text hc ih => rw [List.cons_append, ih]
  | case3 => rfl

/-- The first section is the start of the text. -/
theorem sectionsFrom_isPrefix (text : List Char) : (sectionsFrom text).1 <+: text := by
  fun_induction sectionsFrom text with
  | case1 text ih => exact ⟨'>' :: text, rfl⟩
  | case2 c text hc ih => exact (List.prefix_cons_inj c).mpr ih
  | case3 => exact List.prefix_rfl

/-- No section holds the end of a section. -/
theorem not_close_infix_sections {text content : List Char} (h : content ∈ sections text) :
    ¬quotationClose <:+: content := by
  rw [sections] at h
  fun_induction sectionsFrom text generalizing content with
  | case1 text ih =>
    intro hclose
    rcases List.mem_cons.mp h with rfl | h
    · exact absurd hclose.length_le (Nat.not_le_of_lt (Nat.lt_succ_self 2))
    rcases List.mem_cons.mp h with rfl | h
    · rcases List.infix_cons_iff.mp hclose with hprefix | hinner
      · have heq := (List.cons_prefix_cons.mp hprefix).1
        exact absurd heq (by decide)
      · exact ih List.mem_cons_self hinner
    · exact ih (List.mem_cons_of_mem _ h) hclose
  | case2 c text hc ih =>
    intro hclose
    rcases List.mem_cons.mp h with rfl | h
    · rcases List.infix_cons_iff.mp hclose with hprefix | hinner
      · obtain ⟨rest, hrest⟩ :=
          hprefix.trans ((List.prefix_cons_inj c).mpr (sectionsFrom_isPrefix text))
        injection hrest with hfirst htext
        exact hc rest hfirst.symm htext.symm
      · exact ih List.mem_cons_self hinner
    · exact ih (List.mem_cons_of_mem _ h) hclose
  | case3 =>
    intro hclose
    obtain rfl : content = [] := by simpa using h
    exact absurd hclose.length_le (by decide)

/-- Content that holds no end of a section starts no end that runs into the one behind it. -/
theorem close_not_isPrefix {c : Char} {content : List Char}
    (h : ¬quotationClose <:+: c :: content) (rest : List Char) :
    ¬quotationClose <+: c :: (content ++ quotationClose ++ rest) := by
  rintro ⟨left, heq⟩
  match content with
  | [] => simp [quotationClose] at heq
  | [d] => simp [quotationClose] at heq
  | d :: e :: content =>
    obtain ⟨rfl, rfl, rfl, -⟩ : ']' = c ∧ ']' = d ∧ '>' = e ∧ _ := by
      simpa [quotationClose] using heq
    exact h ⟨[], content, rfl⟩

/-! ## Reading sections -/

/-- A text continues behind some content with the first end of a section in it. -/
structure EndsBehind (content rest text : List Char) : Prop where
  /-- The content, the end of the section and the rest are the text. -/
  split : text = content ++ quotationClose ++ rest
  /-- No end of a section stands before. -/
  first : ∀ before after, text = before ++ quotationClose ++ after →
    content.length ≤ before.length

/-- Sections that stand next to each other are read as long as one is opened, each up to the first
end of a section behind its opening. -/
inductive ReadsSections : List Char → List (List Char) → List Char → Prop
  /-- No section is opened, and the whole text is left. -/
  | done {text : List Char} (hclosed : ¬quotationOpen <+: text) : ReadsSections text [] text
  /-- A section is read, and those behind it. -/
  | more {text inner content rest left : List Char} {contents : List (List Char)}
      (hopen : text = quotationOpen ++ inner) (hends : EndsBehind content rest inner)
      (hrest : ReadsSections rest contents left) : ReadsSections text (content :: contents) left

/-- There is one first end of a section. -/
theorem EndsBehind.unique {content rest other rest' text : List Char}
    (h : EndsBehind content rest text) (hother : EndsBehind other rest' text) :
    content = other ∧ rest = rest' := by
  have hlength : content.length = other.length :=
    Nat.le_antisymm (h.first other rest' hother.split) (hother.first content rest h.split)
  have heq : content ++ (quotationClose ++ rest) = other ++ (quotationClose ++ rest') := by
    rw [← List.append_assoc, ← List.append_assoc, ← h.split, ← hother.split]
  obtain ⟨hcontent, hrest⟩ := List.append_inj heq hlength
  exact ⟨hcontent, List.append_cancel_left hrest⟩

/-- There is one way to read sections. -/
theorem ReadsSections.unique {text left left' : List Char} {contents others : List (List Char)}
    (h : ReadsSections text contents left) (hother : ReadsSections text others left') :
    contents = others ∧ left = left' := by
  induction h generalizing others with
  | done hclosed =>
    cases hother with
    | done => exact ⟨rfl, rfl⟩
    | more hopen => exact absurd ⟨_, hopen.symm⟩ hclosed
  | more hopen hends hrest ih =>
    cases hother with
    | done hclosed => exact absurd ⟨_, hopen.symm⟩ hclosed
    | more hopen' hends' hrest' =>
      obtain rfl := List.append_cancel_left (hopen.symm.trans hopen')
      obtain ⟨rfl, rfl⟩ := hends.unique hends'
      obtain ⟨rfl, rfl⟩ := ih hrest'
      exact ⟨rfl, rfl⟩

/-- A section ends behind a content that holds no end of a section. -/
theorem endsBehind_append {content : List Char} (h : ¬quotationClose <:+: content)
    (rest : List Char) : EndsBehind content rest (content ++ quotationClose ++ rest) := by
  refine ⟨rfl, ?_⟩
  intro before after heq
  induction content generalizing before with
  | nil => exact Nat.zero_le _
  | cons c content ih =>
    cases before with
    | nil => exact absurd ⟨after, heq.symm⟩ (close_not_isPrefix h rest)
    | cons b before =>
      have htail := (List.cons.inj heq).2
      exact Nat.succ_le_succ (ih (fun hclose => h (List.infix_cons hclose)) before htail)

/-- Sections whose contents hold no end of a section are read as they were written. -/
theorem readsSections_flatMap {contents : List (List Char)}
    (h : ∀ content ∈ contents, ¬quotationClose <:+: content) {rest : List Char}
    (hrest : ¬quotationOpen <+: rest) :
    ReadsSections (contents.flatMap sectionText ++ rest) contents rest := by
  induction contents with
  | nil => exact .done hrest
  | cons content contents ih =>
    have hends := endsBehind_append (h content List.mem_cons_self)
      (contents.flatMap sectionText ++ rest)
    have hmore := ih fun other hother => h other (List.mem_cons_of_mem content hother)
    refine .more ?_ hends hmore
    simp only [List.flatMap_cons, sectionText, List.append_assoc]

/-- A quoted text is read back: whatever stands behind it, unless that opens a section itself, the
sections that are read end where the quoted text does, and their contents are the text. So different
texts are quoted in different ways. -/
theorem quoted_reads_back :
    (∀ text rest : String, ¬quotationOpen <+: rest.toList →
      ∃ contents, contents.flatten = text.toList ∧ ∀ read left,
        ReadsSections (quoted text ++ rest).toList read left ↔
          read = contents ∧ left = rest.toList) ∧
    Function.Injective quoted := by
  have hreads (text : String) {rest : List Char} (hrest : ¬quotationOpen <+: rest) :
      ReadsSections ((quoted text).toList ++ rest) (sections text.toList) rest := by
    rw [quoted, String.toList_ofList, quotations_eq]
    exact readsSections_flatMap (fun _ => not_close_infix_sections) hrest
  constructor
  · intro text rest hrest
    refine ⟨sections text.toList, flatten_sections _, ?_⟩
    intro read left
    rw [String.toList_append]
    constructor
    · exact fun hread => hread.unique (hreads text hrest)
    · rintro ⟨rfl, rfl⟩
      exact hreads text hrest
  · intro text other heq
    have hnone : ¬quotationOpen <+: [] := by decide
    have hsections := ((heq ▸ hreads text hnone).unique (hreads other hnone)).1
    rw [← String.toList_inj, ← flatten_sections text.toList, hsections, flatten_sections]

/-- A text with an end of a section and the start of one at its end, before another end. -/
theorem quoted_reads_back_brackets :
    ¬quotationOpen <+: "]]>".toList ∧
      quoted "]]>]]" ++ "]]>" = "<![CDATA[]]]]><![CDATA[>]]]]>]]>" ∧
      ∃ contents, contents.flatten = "]]>]]".toList ∧ ∀ read left,
        ReadsSections (quoted "]]>]]" ++ "]]>").toList read left ↔
          read = contents ∧ left = "]]>".toList :=
  ⟨by decide, by decide, quoted_reads_back.1 "]]>]]" "]]>" (by decide)⟩

/-! ## Line ends -/

/-- Reading line ends leaves no carriage return. -/
theorem carriageReturn_not_mem_lineEnds (text : List Char) : '\r' ∉ lineEnds text := by
  fun_induction lineEnds text with
  | case1 => exact List.not_mem_nil
  | case2 text ih => simpa using ih
  | case3 c text _ ih =>
    rw [List.mem_cons, not_or]
    refine ⟨?_, ih⟩
    by_cases h : c = '\r'
    · simp [h]
    · simp [h, Ne.symm h]

/-- Exactly the texts without a carriage return are read as they stand. -/
theorem lineEnds_eq_self_iff {text : List Char} : lineEnds text = text ↔ '\r' ∉ text := by
  constructor
  · intro h
    rw [← h]
    exact carriageReturn_not_mem_lineEnds text
  · exact lineEnds_eq_self

/-- A character that does not start a line end of two characters is read by itself. -/
private theorem lineEnds_cons {c : Char} {text : List Char}
    (h : c = '\r' → ∀ rest, text ≠ '\n' :: rest) :
    lineEnds (c :: text) = (if c = '\r' then '\n' else c) :: lineEnds text := by
  rw [lineEnds]
  exact fun rest hc htext => h hc rest htext

/-- Line ends are read alike in the sections and in the text that they hold. -/
theorem flatMap_lineEnds_sections (text : List Char) :
    (sections text).flatMap lineEnds = lineEnds text := by
  rw [sections, List.flatMap_cons]
  fun_induction sectionsFrom text with
  | case1 text ih =>
    have hend (rest : List Char) : lineEnds ('>' :: rest) = '>' :: lineEnds rest :=
      lineEnds_cons fun heq => absurd heq (by decide)
    have hbracket (rest : List Char) : lineEnds (']' :: rest) = ']' :: lineEnds rest :=
      lineEnds_cons fun heq => absurd heq (by decide)
    simp only [List.flatMap_cons, hbracket, hend, List.cons_append, ih]
    rfl
  | case2 c text hc ih =>
    by_cases hline : c = '\r' ∧ ∃ rest, text = '\n' :: rest
    · obtain ⟨rfl, rest, rfl⟩ := hline
      have hfirst : sectionsFrom ('\n' :: rest) =
          ('\n' :: (sectionsFrom rest).1, (sectionsFrom rest).2) := rfl
      rw [hfirst] at ih ⊢
      simpa [lineEnds] using ih
    · have htext : c = '\r' → ∀ rest, text ≠ '\n' :: rest :=
        fun hreturn rest heq => hline ⟨hreturn, rest, heq⟩
      have hfirst : c = '\r' → ∀ rest, (sectionsFrom text).1 ≠ '\n' :: rest := by
        intro hreturn rest heq
        obtain ⟨more, hmore⟩ := sectionsFrom_isPrefix text
        rw [heq] at hmore
        exact htext hreturn _ hmore.symm
      rw [lineEnds_cons htext, lineEnds_cons hfirst, List.cons_append, ih]
  | case3 => rfl

end ReleaseStaging.Xml
