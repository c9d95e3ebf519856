import ReleaseStaging.Proofs.Xml.Sections
import ReleaseStaging.Xml.Node

/-!
# Characters, line ends and outlines

What the standard says of a document apart from how it is read: which characters it may hold, and
which texts differ only in their line ends. The outline of a document is what is left of it when
everything but its elements is taken away; its elements may also be listed in document order.
-/

namespace ReleaseStaging.Xml

/-! ## Characters -/

/-- The characters of XML 1.0: three controls, and all others from the space on but the surrogates
and the last two of the basic plane. -/
def IsDocumentChar (c : Char) : Prop :=
  c.toNat = 0x9 ∨ c.toNat = 0xA ∨ c.toNat = 0xD ∨ (0x20 ≤ c.toNat ∧ c.toNat ≤ 0xD7FF) ∨
    (0xE000 ≤ c.toNat ∧ c.toNat ≤ 0xFFFD) ∨ (0x10000 ≤ c.toNat ∧ c.toNat ≤ 0x10FFFF)

/-- The reader accepts the characters of XML 1.0. -/
theorem isXmlChar_iff {c : Char} : isXmlChar c = true ↔ IsDocumentChar c := by
  have hnat {other : Char} : c = other ↔ c.toNat = other.toNat := Char.toNat_inj.symm
  have htab : '\t'.toNat = 0x9 := rfl
  have hline : '\n'.toNat = 0xA := rfl
  have hreturn : '\r'.toNat = 0xD := rfl
  have hvalid : c.toNat < 0xD800 ∨ (0xDFFF < c.toNat ∧ c.toNat < 0x110000) := c.valid
  rw [isXmlChar, IsDocumentChar]
  by_cases hlow : c.toNat < 0x20
  · simp only [if_pos hlow, Bool.or_eq_true, decide_eq_true_eq, hnat, htab, hline, hreturn]
    omega
  · simp only [if_neg hlow, Bool.not_eq_true', Bool.or_eq_false_iff, decide_eq_false_iff_not]
    omega

/-! ## Line ends -/

/-- One text is another one with its line ends read: a carriage return with a line feed right after
it is one line feed, any other carriage return is a line feed, and all else stays. -/
inductive ReadsLineEnds : List Char → List Char → Prop
  /-- Nothing stays nothing. -/
  | nil : ReadsLineEnds [] []
  /-- A carriage return and a line feed are one line feed. -/
  | pair {text read : List Char} (h : ReadsLineEnds text read) :
      ReadsLineEnds ('\r' :: '\n' :: text) ('\n' :: read)
  /-- A carriage return alone is a line feed. -/
  | lone {text read : List Char} (halone : text.head? ≠ some '\n') (h : ReadsLineEnds text read) :
      ReadsLineEnds ('\r' :: text) ('\n' :: read)
  /-- All else stays. -/
  | other {c : Char} {text read : List Char} (hother : c ≠ '\r') (h : ReadsLineEnds text read) :
      ReadsLineEnds (c :: text) (c :: read)

/-- The reader reads line ends as they are to be read. -/
theorem readsLineEnds_lineEnds (text : List Char) : ReadsLineEnds text (lineEnds text) := by
  fun_induction lineEnds text with
  | case1 => exact .nil
  | case2 text ih => exact .pair ih
  | case3 c text hpair ih =>
    by_cases hreturn : c = '\r'
    · subst hreturn
      rw [if_pos rfl]
      refine .lone ?_ ih
      intro hhead
      obtain ⟨rest, rfl⟩ := List.head?_eq_some_iff.mp hhead
      exact hpair rest rfl rfl
    · rw [if_neg hreturn]
      exact .other hreturn ih

/-! ## Outlines -/

namespace Node

/-- Only elements have a name. -/
theorem isElement_of_isNamed {name : String} {node : Node} (h : node.isNamed name = true) :
    node.isElement = true := by
  cases node with
  | element _ _ => rfl
  | text _ => cases h
  | comment _ => cases h
  | instruction _ _ => cases h

mutual

/-- A node without anything but the elements in it: an element with the outlines of its content, and
nothing for any other node. -/
def outline : Node → List Node
  | element name children => [element name (outlines children)]
  | text _ => []
  | comment _ => []
  | instruction _ _ => []

/-- Some nodes without anything but the elements in them. -/
def outlines : List Node → List Node
  | [] => []
  | node :: nodes => node.outline ++ outlines nodes

end

/-- Texts leave nothing in an outline. -/
theorem outlines_texts (texts : List String) : outlines (texts.map text) = [] := by
  induction texts with
  | nil => rfl
  | cons first texts ih => rw [List.map_cons, outlines, outline, List.nil_append, ih]

mutual

/-- The elements at and below a node, in document order. -/
def elements : Node → List Node
  | element name children => element name children :: elementsAmong children
  | _ => []

/-- The elements at and below some nodes, in document order. -/
def elementsAmong : List Node → List Node
  | [] => []
  | node :: nodes => elements node ++ elementsAmong nodes

end

end Node

end ReleaseStaging.Xml
