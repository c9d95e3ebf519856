import ReleaseStaging.Proofs.Xml.Sections
import ReleaseStaging.Xml.Reader

/-!
# Reading plain markup

Tags of plain names, without prefix and attributes, and quoted sections are cut off a text one by
one: each rule says which piece of markup comes first and leaves the rest. In the tree such a tag
opens or ends an element of that name, and the sections that hold a text become its text nodes.
-/

namespace ReleaseStaging.Xml

/-! ## Plain names -/

/-- A name without a prefix. -/
structure IsPlainName (name : List Char) : Prop where
  /-- It starts as a name does. -/
  starts : startsName name = true
  /-- All its characters may stand in a name. -/
  all : name.all isNameChar = true
  /-- It has no colon. -/
  noColon : ':' ∉ name

/-- A text without a separator is one field. -/
theorem fields_of_not_mem {separator : Char} {text : List Char} (h : separator ∉ text) :
    Text.fields separator text = [text] := by
  induction text with
  | nil => rfl
  | cons c text ih =>
    obtain ⟨hc, htext⟩ : separator ≠ c ∧ separator ∉ text := by simpa using h
    rw [Text.fields, if_neg hc.symm, ih htext]

/-- A plain name is cut off from in front of what does not continue it. -/
theorem IsPlainName.next? {name rest : List Char} (h : IsPlainName name)
    (hrest : Text.Stops isNameChar rest) :
    QName.next? (name ++ rest) = some (⟨[], name⟩, rest) := by
  have hall : ∀ c ∈ name, isNameChar c = true := List.all_eq_true.mp h.all
  unfold QName.next?
  simp only [Text.takeWhile_append hall hrest, Text.dropWhile_append hall hrest,
    fields_of_not_mem h.noColon, h.starts, if_true]

private theorem isNameChar_close : isNameChar '>' = false := by decide

namespace Token

/-! ## Pieces of markup -/

/-- A start tag of a plain name comes first. -/
theorem next?_startTag {name : List Char} (h : IsPlainName name) (rest : List Char) :
    next? ('<' :: (name ++ '>' :: rest)) = some (.startTag ⟨[], name⟩ [] false, rest) := by
  have hname : QName.next? (name ++ '>' :: rest) = some (⟨[], name⟩, '>' :: rest) :=
    h.next? (Text.stops_cons.mpr isNameChar_close)
  have htag : tagRest? ('>' :: rest) = some ([], false, rest) := by
    unfold tagRest?
    simp [isSpace, Text.after?]
  cases name with
  | nil => exact absurd h.starts Bool.false_ne_true
  | cons c name =>
    have hc : isNameStart c = true := h.starts
    have hmark : c ≠ '!' ∧ c ≠ '/' ∧ c ≠ '?' := by
      refine ⟨?_, ?_, ?_⟩ <;>
      · rintro rfl
        exact absurd hc (by decide)
    obtain ⟨hbang, hslash, hquestion⟩ := hmark
    rw [List.cons_append] at hname ⊢
    simp [next?, Text.after?, hbang.symm, hslash.symm, hquestion.symm, startTag?, hname, htag]

/-- An end tag of a plain name comes first. -/
theorem next?_endTag {name : List Char} (h : IsPlainName name) (rest : List Char) :
    next? ('<' :: '/' :: (name ++ '>' :: rest)) = some (.endTag ⟨[], name⟩, rest) := by
  have hname : QName.next? (name ++ '>' :: rest) = some (⟨[], name⟩, '>' :: rest) :=
    h.next? (Text.stops_cons.mpr isNameChar_close)
  have hend : ('>' :: rest).dropWhile isSpace = '>' :: rest :=
    List.dropWhile_cons_of_neg (by decide)
  simp [next?, Text.after?, endTag?, hname, hend]

/-- A section does not end before the end that stands behind its content. -/
private theorem after?_quotationClose {c : Char} {content : List Char}
    (h : ¬quotationClose <:+: c :: content) (rest : List Char) :
    Text.after? quotationClose (c :: (content ++ quotationClose ++ rest)) = none := by
  rw [Option.eq_none_iff_forall_ne_some]
  intro left hleft
  exact close_not_isPrefix h rest ⟨left, (Text.after?_eq_some_iff.mp hleft).symm⟩

/-- The end of a section is found behind a content that does not hold one, if all characters of
the content may stand in a document. -/
theorem upTo_quotationClose {content : List Char} (h : ¬quotationClose <:+: content)
    (rest : List Char) :
    Text.upTo isXmlChar quotationClose (content ++ quotationClose ++ rest) =
      if content.all isXmlChar then some (content, rest) else none := by
  induction content with
  | nil => rfl
  | cons c content ih =>
    have hinner : ¬quotationClose <:+: content := fun hclose => h (List.infix_cons hclose)
    rw [List.cons_append, List.cons_append, Text.upTo, after?_quotationClose h rest, ih hinner]
    cases hc : isXmlChar c with
    | false => simp [hc]
    | true =>
      by_cases hall : content.all isXmlChar = true
      · simp [hc, hall]
      · simp [hc, hall]

/-- A section comes first, unless a character of its content may not stand in a document. -/
theorem next?_section {content : List Char} (h : ¬quotationClose <:+: content)
    (rest : List Char) :
    next? (sectionText content ++ rest) =
      if content.all isXmlChar then some (.quotation content, rest) else none := by
  have hopen : next? (sectionText content ++ rest) =
      quotation? (content ++ quotationClose ++ rest) := by
    rw [sectionText, List.append_assoc, List.append_assoc, ← List.append_assoc content]
    rfl
  have hcut := upTo_quotationClose h rest
  rw [hopen, quotation?]
  change (Text.upTo isXmlChar quotationClose _).map _ = _
  rw [hcut]
  split <;> rfl

/-! ## Whole texts -/

@[simp] theorem ofChars?_nil : ofChars? [] = some [] := by
  rw [ofChars?]
  rfl

private theorem next?_nil : next? [] = none := rfl

/-- A text is cut into its first piece of markup and those of the rest. -/
theorem ofChars?_of_next? {chars rest : List Char} {token : Token}
    (h : next? chars = some (token, rest)) :
    ofChars? chars = (ofChars? rest).map (token :: ·) := by
  cases chars with
  | nil => simp [next?_nil] at h
  | cons c chars =>
    rw [ofChars?]
    split
    · next hempty => simp at hempty
    · split
      · next hnone => simp [h] at hnone
      · next token' rest' hnext =>
        obtain ⟨rfl, rfl⟩ : token = token' ∧ rest = rest' := by simpa [h] using hnext
        rfl

/-- A text that does not start with a piece of markup is not cut at all. -/
theorem ofChars?_of_next?_eq_none {chars : List Char} (hne : chars ≠ [])
    (h : next? chars = none) : ofChars? chars = none := by
  rw [ofChars?]
  split
  · next hempty => exact absurd (List.isEmpty_iff.mp hempty) hne
  · split
    · rfl
    · next hnext => simp [h] at hnext

/-- A start tag of a plain name is cut off first. -/
theorem ofChars?_startTag {name : List Char} (h : IsPlainName name) (rest : List Char) :
    ofChars? ('<' :: (name ++ '>' :: rest)) =
      (ofChars? rest).map (.startTag ⟨[], name⟩ [] false :: ·) :=
  ofChars?_of_next? (next?_startTag h rest)

/-- An end tag of a plain name is cut off first. -/
theorem ofChars?_endTag {name : List Char} (h : IsPlainName name) (rest : List Char) :
    ofChars? ('<' :: '/' :: (name ++ '>' :: rest)) =
      (ofChars? rest).map (.endTag ⟨[], name⟩ :: ·) :=
  ofChars?_of_next? (next?_endTag h rest)

/-- Sections are cut off one by one, unless a character may not stand in a document. -/
theorem ofChars?_sections {contents : List (List Char)}
    (h : ∀ content ∈ contents, ¬quotationClose <:+: content) (rest : List Char) :
    ofChars? (contents.flatMap sectionText ++ rest) =
      if contents.flatten.all isXmlChar then
        (ofChars? rest).map (contents.map Token.quotation ++ ·)
      else none := by
  induction contents with
  | nil => simp
  | cons content contents ih =>
    have hfirst := h content List.mem_cons_self
    have hmore := ih fun other hother => h other (List.mem_cons_of_mem content hother)
    have hnext := next?_section hfirst (contents.flatMap sectionText ++ rest)
    rw [List.flatMap_cons, List.append_assoc, List.flatten_cons, List.all_append]
    cases hall : content.all isXmlChar with
    | false =>
      rw [hall] at hnext
      exact ofChars?_of_next?_eq_none (List.cons_ne_nil _ _) hnext
    | true =>
      rw [hall, if_pos rfl] at hnext
      rw [ofChars?_of_next? hnext, hmore, Bool.true_and]
      by_cases hrest : contents.flatten.all isXmlChar = true
      · rw [if_pos hrest, if_pos hrest, Option.map_map]
        rfl
      · rw [if_neg hrest, if_neg hrest]
        rfl

/-- A quoted text is cut into its sections, unless a character of it may not stand in a
document. -/
theorem ofChars?_quotations (text rest : List Char) :
    ofChars? (quotations text ++ rest) =
      if text.all isXmlChar then
        (ofChars? rest).map ((sections text).map Token.quotation ++ ·)
      else none := by
  have hclosed : ∀ content ∈ sections text, ¬quotationClose <:+: content :=
    fun _ => not_close_infix_sections
  have hsections := ofChars?_sections hclosed rest
  rwa [flatten_sections, ← quotations_eq] at hsections

end Token

/-! ## Elements of quoted text -/

/-- An element of a plain name around some markup. -/
def elementText (name content : List Char) : List Char :=
  '<' :: (name ++ '>' :: (content ++ '<' :: '/' :: (name ++ ['>'])))

/-- The pieces of markup of an element of quoted text. -/
def quotedTokens (name text : List Char) : List Token :=
  .startTag ⟨[], name⟩ [] false :: ((sections text).map Token.quotation ++ [.endTag ⟨[], name⟩])

/-- The text nodes that quoted text is read as. -/
def quotedNodes (text : List Char) : List Node :=
  (sections text).map fun content => .text (String.ofList (lineEnds content))

/-- An element of quoted text is cut into its pieces, unless a character of the text may not stand
in a document. -/
theorem ofChars?_quotedElement {name : List Char} (h : IsPlainName name)
    (text rest : List Char) :
    Token.ofChars? (elementText name (quotations text) ++ rest) =
      if text.all isXmlChar then
        (Token.ofChars? rest).map (quotedTokens name text ++ ·)
      else none := by
  have hshape : elementText name (quotations text) ++ rest =
      '<' :: (name ++ '>' :: (quotations text ++ '<' :: '/' :: (name ++ '>' :: rest))) := by
    simp [elementText]
  rw [hshape, Token.ofChars?_startTag h, Token.ofChars?_quotations, Token.ofChars?_endTag h]
  by_cases hall : text.all isXmlChar = true
  · rw [if_pos hall, if_pos hall, Option.map_map, Option.map_map]
    simp [quotedTokens, Function.comp_def]
  · rw [if_neg hall, if_neg hall]
    rfl

/-- Elements of quoted text are cut into their pieces, unless a character of a text may not stand in
a document. -/
theorem ofChars?_quotedElements {fields : List (List Char × List Char)}
    (h : ∀ field ∈ fields, IsPlainName field.1) (rest : List Char) :
    Token.ofChars? ((fields.flatMap fun field => elementText field.1 (quotations field.2)) ++
        rest) =
      if fields.all fun field => field.2.all isXmlChar then
        (Token.ofChars? rest).map ((fields.flatMap fun field => quotedTokens field.1 field.2) ++ ·)
      else none := by
  induction fields with
  | nil => simp
  | cons field fields ih =>
    have hmore := ih fun other hother => h other (List.mem_cons_of_mem field hother)
    rw [List.flatMap_cons, List.append_assoc,
      ofChars?_quotedElement (h field List.mem_cons_self), hmore, List.all_cons]
    cases field.2.all isXmlChar with
    | false => rfl
    | true =>
      rw [if_pos rfl, Bool.true_and]
      by_cases hall : (fields.all fun field => field.2.all isXmlChar) = true
      · rw [if_pos hall, if_pos hall, Option.map_map]
        simp [Function.comp_def]
      · rw [if_neg hall, if_neg hall]
        rfl

/-- The text of quoted text nodes is the text with its line ends read. -/
theorem stringValues_quotedNodes (text : List Char) :
    Node.stringValues (quotedNodes text) = String.ofList (lineEnds text) := by
  have hvalues (contents : List (List Char)) :
      Node.stringValues (contents.map fun content => .text (String.ofList (lineEnds content))) =
        String.ofList (contents.flatMap lineEnds) := by
    induction contents with
    | nil => rfl
    | cons content contents ih =>
      rw [List.map_cons, Node.stringValues, Node.stringValue, ih, List.flatMap_cons,
        String.ofList_append]
  rw [quotedNodes, hvalues, flatMap_lineEnds_sections]

/-! ## The tree -/

namespace Partial

/-- The sections of a text become its nodes. -/
theorem foldlM_quotations (before : List Node) (opened : OpenElement) (outer : List OpenElement)
    (contents : List (List Char)) :
    (contents.map Token.quotation).foldlM add? (.inside before opened outer) =
      some (.inside before ⟨opened.name, opened.scope,
        (contents.map fun content => .text (String.ofList (lineEnds content))).reverse ++
          opened.content⟩ outer) := by
  induction contents generalizing opened with
  | nil => rfl
  | cons content contents ih =>
    rw [List.map_cons, List.foldlM_cons]
    simp only [add?, Option.bind_eq_bind, Option.bind_some, ih]
    simp [OpenElement.push]

/-- An element of quoted text becomes a node of the innermost open element. -/
theorem foldlM_quotedTokens (before : List Node) (opened : OpenElement)
    (outer : List OpenElement) (name text : List Char) (rest : List Token) :
    (quotedTokens name text ++ rest).foldlM add? (.inside before opened outer) =
      rest.foldlM add? (.inside before
        (opened.push (.element (String.ofList name) (quotedNodes text))) outer) := by
  have hsections := foldlM_quotations before ⟨⟨[], name⟩, opened.scope, []⟩ (opened :: outer)
    (sections text)
  have hopen : add? (.inside before opened outer) (.startTag ⟨[], name⟩ [] false) =
      some (.inside before ⟨⟨[], name⟩, opened.scope, []⟩ (opened :: outer)) := rfl
  rw [quotedTokens, List.cons_append, List.foldlM_cons, hopen, List.append_assoc]
  simp only [Option.bind_eq_bind, Option.bind_some, List.foldlM_append, hsections]
  simp [add?, closeElement, OpenElement.close, quotedNodes]

/-- Elements of quoted text become nodes of the innermost open element. -/
theorem foldlM_quotedElements (before : List Node) (opened : OpenElement)
    (outer : List OpenElement) (fields : List (List Char × List Char)) (rest : List Token) :
    ((fields.flatMap fun field => quotedTokens field.1 field.2) ++ rest).foldlM add?
        (.inside before opened outer) =
      rest.foldlM add? (.inside before ⟨opened.name, opened.scope,
        (fields.map fun field => .element (String.ofList field.1) (quotedNodes field.2)).reverse ++
          opened.content⟩ outer) := by
  induction fields generalizing opened with
  | nil => rfl
  | cons field fields ih =>
    rw [List.flatMap_cons, List.append_assoc, foldlM_quotedTokens, ih]
    simp [OpenElement.push]

end Partial

end ReleaseStaging.Xml
