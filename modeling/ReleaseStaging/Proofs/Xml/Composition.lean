import ReleaseStaging.Proofs.Xml.Markup
import ReleaseStaging.Proofs.Xml.Outline

/-!
# Documents put together

Markup that reads as some nodes wherever it stands may be put one after another and into an element.
Text without anything that means something in a document reads as itself in an element. So what a
document is read as follows from how its text is put together, one rule for each way to do so.
-/

namespace ReleaseStaging.Xml

/-! ## Plain text -/

/-- A text that stands for itself in a document. -/
structure IsPlainText (text : List Char) : Prop where
  /-- All its characters may stand in a document. -/
  chars : ∀ c ∈ text, IsDocumentChar c
  /-- It opens no tag. -/
  noTag : '<' ∉ text
  /-- It holds no reference. -/
  noReference : '&' ∉ text
  /-- Its line ends are read already. -/
  noReturn : '\r' ∉ text
  /-- It ends no quoted section. -/
  noClose : ¬quotationClose <:+: text

instance (name : List Char) : Decidable (IsPlainName name) :=
  decidable_of_iff (_ ∧ _ ∧ _) ⟨fun h => ⟨h.1, h.2.1, h.2.2⟩, fun h => ⟨h.starts, h.all, h.noColon⟩⟩

/-- Whether a text stands for itself. -/
def isPlainText (text : List Char) : Bool :=
  text.all (fun c => isXmlChar c && c != '<' && c != '&' && c != '\r') &&
    !Text.occurs quotationClose text

theorem isPlainText_iff {text : List Char} : isPlainText text = true ↔ IsPlainText text := by
  simp only [isPlainText, Bool.and_eq_true, List.all_eq_true, bne_iff_ne, Bool.not_eq_true',
    ← Bool.not_eq_true, Text.occurs_iff, isXmlChar_iff]
  constructor
  · rintro ⟨hchars, hnoClose⟩
    exact ⟨fun c hc => (hchars c hc).1.1.1, fun hc => (hchars _ hc).1.1.2 rfl,
      fun hc => (hchars _ hc).1.2 rfl, fun hc => (hchars _ hc).2 rfl, hnoClose⟩
  · intro h
    refine ⟨?_, h.noClose⟩
    intro c hc
    exact ⟨⟨⟨h.chars c hc, fun heq => h.noTag (heq ▸ hc)⟩,
      fun heq => h.noReference (heq ▸ hc)⟩, fun heq => h.noReturn (heq ▸ hc)⟩

instance (text : List Char) : Decidable (IsPlainText text) :=
  decidable_of_iff _ isPlainText_iff

private theorem pushLiteral_of_ne {read : List Char} {c : Char} (hc : c ≠ '\r')
    (hread : '\r' ∉ read) (isLast : Bool) : pushLiteral read c isLast = c :: read := by
  have hended : (if (isLast && decide (c = '\r')) = true then '\n' else c) = c := by simp [hc]
  simp only [pushLiteral, hended]
  split
  · exact absurd List.mem_cons_self hread
  · rfl

/-- Without references and carriage returns, character data stands for itself. -/
theorem characterData?_eq_some {raw : List Char} (hreference : '&' ∉ raw) (hreturn : '\r' ∉ raw) :
    characterData? raw = some raw := by
  -- What was read before must not end with a carriage return either: that one is still pending.
  suffices ∀ read, '\r' ∉ read → characterData?.go raw read false = some (read.reverse ++ raw) from
    this [] List.not_mem_nil
  induction raw with
  | nil =>
    intro read _
    rw [characterData?.go, List.append_nil]
  | cons c raw ih =>
    intro read hread
    obtain ⟨hc, hraw⟩ : '&' ≠ c ∧ '&' ∉ raw := by simpa using hreference
    obtain ⟨hc', hraw'⟩ : '\r' ≠ c ∧ '\r' ∉ raw := by simpa using hreturn
    have hnext : '\r' ∉ c :: read := by simp [hc', hread]
    rw [characterData?.go, if_neg hc.symm, if_neg Bool.false_ne_true,
      pushLiteral_of_ne hc'.symm hread, ih hraw hraw' _ hnext, List.reverse_cons, List.append_assoc,
      List.singleton_append]

/-- Plain text comes first in front of a tag. -/
theorem next?_plainText {text : List Char} (h : IsPlainText text) (hne : text ≠ [])
    (rest : List Char) :
    Token.next? (text ++ '<' :: rest) = some (.text text, '<' :: rest) := by
  have hdata : ∀ c ∈ text, Token.isData c = true := by
    intro c hc
    exact bne_iff_ne.mpr fun heq => h.noTag (heq ▸ hc)
  have hchars : text.all isXmlChar = true :=
    List.all_eq_true.mpr fun c hc => isXmlChar_iff.mpr (h.chars c hc)
  have hclose : Text.occurs [']', ']', '>'] text = false := by
    rw [← Bool.not_eq_true, Text.occurs_iff]
    exact h.noClose
  have hstops : Text.Stops Token.isData ('<' :: rest) := Text.stops_cons.mpr (by decide)
  have htext : Token.text? (text ++ '<' :: rest) = some (.text text, '<' :: rest) := by
    simp only [Token.text?, Text.takeWhile_append hdata hstops, Text.dropWhile_append hdata hstops,
      List.isEmpty_eq_false_iff.mpr hne, hchars, hclose]
    rfl
  rw [← htext]
  cases text with
  | nil => exact absurd rfl hne
  | cons c text =>
    have hc : '<' ≠ c := fun heq => h.noTag (heq ▸ List.mem_cons_self)
    simp [Token.next?, Text.after?, hc]

/-! ## Markup that reads as nodes -/

/-- Wherever markup stands in an element, it is read as the given nodes. -/
def ReadsAs (markup : List Char) (nodes : List Node) : Prop :=
  ∃ tokens : List Token,
    (∀ rest, Token.ofChars? (markup ++ rest) = (Token.ofChars? rest).map (tokens ++ ·)) ∧
    ∀ before opened outer, tokens.foldlM Partial.add? (.inside before opened outer) =
      some (.inside before ⟨opened.name, opened.scope, nodes.reverse ++ opened.content⟩ outer)

/-- No markup reads as no nodes. -/
theorem readsAs_nil : ReadsAs [] [] := by
  refine ⟨[], ?_, fun _ _ _ => rfl⟩
  intro rest
  simp

/-- Markup in a row reads as the nodes in a row. -/
theorem ReadsAs.append {markup more : List Char} {nodes others : List Node}
    (h : ReadsAs markup nodes) (hmore : ReadsAs more others) :
    ReadsAs (markup ++ more) (nodes ++ others) := by
  obtain ⟨tokens, hcut, hadd⟩ := h
  obtain ⟨tokens', hcut', hadd'⟩ := hmore
  refine ⟨tokens ++ tokens', ?_, ?_⟩
  · intro rest
    rw [List.append_assoc, hcut, hcut', Option.map_map]
    simp [Function.comp_def]
  · intro before opened outer
    rw [List.foldlM_append, hadd]
    simp [hadd']

/-- If each piece of markup reads as its nodes, all of them read as all nodes. -/
theorem ReadsAs.flatMap {α : Type} {list : List α} {markup : α → List Char} {nodes : α → List Node}
    (h : ∀ a ∈ list, ReadsAs (markup a) (nodes a)) :
    ReadsAs (list.flatMap markup) (list.flatMap nodes) := by
  induction list with
  | nil => exact readsAs_nil
  | cons a list ih =>
    rw [List.flatMap_cons, List.flatMap_cons]
    exact (h a List.mem_cons_self).append (ih fun b hb => h b (List.mem_cons_of_mem a hb))

/-- An element of a plain name reads as an element around what its content reads as. -/
theorem ReadsAs.element {name markup : List Char} {nodes : List Node} (hname : IsPlainName name)
    (h : ReadsAs markup nodes) :
    ReadsAs (elementText name markup) [.element (String.ofList name) nodes] := by
  obtain ⟨tokens, hcut, hadd⟩ := h
  -- The content is cut as it would be alone: that its tokens do not depend on what follows is why
  -- `ReadsAs` speaks of every rest.
  refine ⟨.startTag ⟨[], name⟩ [] false :: (tokens ++ [.endTag ⟨[], name⟩]), ?_, ?_⟩
  · intro rest
    have hshape : elementText name markup ++ rest =
        '<' :: (name ++ '>' :: (markup ++ '<' :: '/' :: (name ++ '>' :: rest))) := by
      simp [elementText]
    rw [hshape, Token.ofChars?_startTag hname, hcut, Token.ofChars?_endTag hname, Option.map_map,
      Option.map_map]
    simp [Function.comp_def]
  · intro before opened outer
    have hopen : Partial.add? (.inside before opened outer) (.startTag ⟨[], name⟩ [] false) =
        some (.inside before ⟨⟨[], name⟩, opened.scope, []⟩ (opened :: outer)) := rfl
    rw [List.foldlM_cons, hopen, Option.bind_eq_bind, Option.bind_some, List.foldlM_append, hadd]
    simp [Partial.add?, Partial.closeElement, OpenElement.close, OpenElement.push]

/-- The nodes that plain text is read as: empty text leaves none. -/
def textNodes (text : List Char) : List Node :=
  if text.isEmpty then [] else [.text (String.ofList text)]

theorem stringValues_textNodes (text : List Char) :
    Node.stringValues (textNodes text) = String.ofList text := by
  cases text with
  | nil => rfl
  | cons c text => simp [textNodes, Node.stringValues, Node.stringValue]

/-- An element of plain text reads as an element that holds the text. -/
theorem ReadsAs.textElement {name text : List Char} (hname : IsPlainName name)
    (h : IsPlainText text) :
    ReadsAs (elementText name text) [.element (String.ofList name) (textNodes text)] := by
  -- Empty text is no piece of markup, so it leaves no node.
  by_cases hne : text = []
  · rw [hne]
    exact .element hname readsAs_nil
  refine ⟨[.startTag ⟨[], name⟩ [] false, .text text, .endTag ⟨[], name⟩], ?_, ?_⟩
  · intro rest
    have hshape : elementText name text ++ rest =
        '<' :: (name ++ '>' :: (text ++ '<' :: '/' :: (name ++ '>' :: rest))) := by
      simp [elementText]
    rw [hshape, Token.ofChars?_startTag hname, Token.ofChars?_of_next? (next?_plainText h hne _),
      Token.ofChars?_endTag hname, Option.map_map, Option.map_map]
    rfl
  · intro before opened outer
    have hopen : Partial.add? (.inside before opened outer) (.startTag ⟨[], name⟩ [] false) =
        some (.inside before ⟨⟨[], name⟩, opened.scope, []⟩ (opened :: outer)) := rfl
    have hdata := characterData?_eq_some h.noReference h.noReturn
    rw [List.foldlM_cons, hopen, Option.bind_eq_bind, Option.bind_some]
    simp [Partial.add?, Partial.closeElement, OpenElement.close, OpenElement.push, hdata, textNodes,
      hne]

/-- A document that starts with an element has no declaration. -/
private theorem body?_elementText {name : List Char} (hname : IsPlainName name)
    (markup : List Char) : body? (elementText name markup) = some (elementText name markup) := by
  cases name with
  | nil => exact absurd hname.starts Bool.false_ne_true
  | cons c name =>
    have hstart : isNameStart c = true := hname.starts
    have hc : '?' ≠ c := by
      rintro rfl
      exact absurd hstart (by decide)
    have hafter : Text.after? "<?xml ".toList (elementText (c :: name) markup) = none := if_neg hc
    have hmark : withoutMark (elementText (c :: name) markup) =
        elementText (c :: name) markup := rfl
    rw [body?, hmark, hafter]

/-- An element of a plain name around markup that reads as nodes is a document. -/
theorem ReadsAs.document {name markup : List Char} {nodes : List Node} (hname : IsPlainName name)
    (h : ReadsAs markup nodes) :
    Document.ofChars? (elementText name markup) = some ⟨[], String.ofList name, nodes, []⟩ := by
  obtain ⟨tokens, hcut, hadd⟩ := h
  have hshape : elementText name markup =
      '<' :: (name ++ '>' :: (markup ++ '<' :: '/' :: (name ++ '>' :: []))) := rfl
  have hopen : Partial.add? (.prolog []) (.startTag ⟨[], name⟩ [] false) =
      some (.inside [] ⟨⟨[], name⟩, [], []⟩ []) := rfl
  rw [Document.ofChars?, body?_elementText hname, Option.bind_some, hshape,
    Token.ofChars?_startTag hname, hcut, Token.ofChars?_endTag hname, Token.ofChars?_nil]
  simp only [Option.map_some, Option.bind_some, Document.ofTokens?, List.foldlM_cons, hopen,
    Option.bind_eq_bind, List.foldlM_append, hadd]
  simp [Partial.add?, Partial.closeElement, Partial.finish?]

end ReleaseStaging.Xml
