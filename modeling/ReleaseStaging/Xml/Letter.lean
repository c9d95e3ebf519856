/-!
# Characters of a document

Which characters may stand in an XML 1.0 document at all, which separate parts of a tag, and which
may stand in a name.
-/

namespace ReleaseStaging.Xml

/-- The characters that may stand in a document. -/
def isXmlChar (c : Char) : Bool :=
  if c.toNat < 0x20 then c = '\t' || c = '\n' || c = '\r'
  else !(c.toNat = 0xFFFE || c.toNat = 0xFFFF)

/-- The characters that separate the parts of a tag. -/
def isSpace (c : Char) : Bool :=
  c = ' ' || c = '\t' || c = '\n' || c = '\r'

/-- The characters beyond ASCII with which a name may start. -/
def isWideNameStart (n : Nat) : Bool :=
  (0xC0 ≤ n && n ≤ 0xD6) || (0xD8 ≤ n && n ≤ 0xF6) || (0xF8 ≤ n && n ≤ 0x2FF) ||
    (0x370 ≤ n && n ≤ 0x37D) || (0x37F ≤ n && n ≤ 0x1FFF) || (0x200C ≤ n && n ≤ 0x200D) ||
    (0x2070 ≤ n && n ≤ 0x218F) || (0x2C00 ≤ n && n ≤ 0x2FEF) || (0x3001 ≤ n && n ≤ 0xD7FF) ||
    (0xF900 ≤ n && n ≤ 0xFDCF) || (0xFDF0 ≤ n && n ≤ 0xFFFD) || (0x10000 ≤ n && n ≤ 0xEFFFF)

/-- The characters with which a name may start. -/
def isNameStart (c : Char) : Bool :=
  c.isAlpha || c = ':' || c = '_' || isWideNameStart c.toNat

/-- The characters that may stand in a name. -/
def isNameChar (c : Char) : Bool :=
  isNameStart c || c.isDigit || c = '-' || c = '.' || c.toNat = 0xB7 ||
    (0x300 ≤ c.toNat && c.toNat ≤ 0x36F) || (0x203F ≤ c.toNat && c.toNat ≤ 0x2040)

/-- Whether a text starts as a name does. -/
def startsName : List Char → Bool
  | [] => false
  | c :: _ => isNameStart c

/-- Line ends as a reader of the document sees them: a carriage return, and the line feed after it
if there is one, stands for one line feed. -/
def lineEnds : List Char → List Char
  | [] => []
  | '\r' :: '\n' :: text => '\n' :: lineEnds text
  | c :: text => (if c = '\r' then '\n' else c) :: lineEnds text

/-- Without a carriage return the line ends are as they are. -/
theorem lineEnds_eq_self {text : List Char} (h : '\r' ∉ text) : lineEnds text = text := by
  fun_induction lineEnds text with
  | case1 => rfl
  | case2 => simp at h
  | case3 c text _ ih =>
    have hc : c ≠ '\r' := by rintro rfl; simp at h
    simp [hc, ih (fun ht => h (List.mem_cons_of_mem c ht))]

end ReleaseStaging.Xml
