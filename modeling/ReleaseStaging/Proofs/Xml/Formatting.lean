import ReleaseStaging.Proofs.Text.Trimming
import ReleaseStaging.Proofs.Xml.Outline

/-!
# Formatting

Two documents that say the same may be formatted differently: with comments and processing
instructions, with white space around elements, with white space at the ends of a text.
`Node.unformatted` takes such formatting away. `Node.gist` keeps less, namely the elements and, of
an element without elements in it, the trimmed text. Taking formatting away does not change the
gist.
-/

namespace ReleaseStaging.Xml

/-! ## White space between elements -/

/-- A text without the white space of the document at either end. -/
def stripped (text : String) : String :=
  String.ofList ((text.toList.dropWhile isSpace).reverse.dropWhile isSpace).reverse

/-- White space of a document is blank. -/
theorem isBlank_of_isSpace {c : Char} (h : isSpace c = true) : Text.isBlank c = true := by
  simp only [isSpace, Bool.or_eq_true, decide_eq_true_eq] at h
  rcases h with ((rfl | rfl) | rfl) | rfl <;> decide

/-- Stripping a text makes no difference once it is trimmed. -/
theorem trimmed_stripped (text : String) : Text.trimmed (stripped text) = Text.trimmed text := by
  obtain ⟨before, hbefore, hspace⟩ := Text.exists_run isSpace text.toList
  obtain ⟨after, hafter, hspace'⟩ :=
    Text.exists_run isSpace (text.toList.dropWhile isSpace).reverse
  have htext : text.toList = before ++ (stripped text).toList ++ after.reverse := by
    rw [stripped, String.toList_ofList, List.append_assoc, ← List.reverse_append, ← hafter,
      List.reverse_reverse, ← hbefore]
  rw [Text.trimmed, Text.trimmed, htext, Text.trim_surrounded]
  · exact fun c hc => isBlank_of_isSpace (hspace c hc)
  · exact fun c hc => isBlank_of_isSpace (hspace' c (List.mem_reverse.mp hc))

/-- A text that is nothing but white space is trimmed to nothing. -/
theorem trimmed_eq_empty {text : String} (h : text.toList.all isSpace = true) :
    Text.trimmed text = "" := by
  have hblank : ∀ c ∈ text.toList, Text.isBlank c = true :=
    fun c hc => isBlank_of_isSpace (List.all_eq_true.mp h c hc)
  have hnone : Text.trim (text.toList ++ [] ++ []) = [] :=
    Text.trim_surrounded hblank fun c hc => absurd hc List.not_mem_nil
  rw [List.append_nil, List.append_nil] at hnone
  rw [Text.trimmed, hnone]

/-- A run of text, unless it is nothing but white space. -/
def remaining (text : String) : List Node :=
  if text.toList.all isSpace then [] else [.text text]

namespace Node

/-- Whether an element holds no elements. -/
def isLeaf (node : Node) : Bool :=
  !node.children.any isElement

mutual

/-- A node without its formatting: without comments and processing instructions, without text that
is nothing but white space next to elements, and without white space at the ends of the text of an
element that holds no elements. -/
def unformatted : Node → Node
  | element name children =>
    element name (if children.any isElement then unformattedAmong "" children
      else remaining (stripped (stringValues children)))
  | node => node

/-- Some nodes among which there is an element, without their formatting; `run` is the text in front
of them. -/
def unformattedAmong (run : String) : List Node → List Node
  | [] => remaining run
  | node :: nodes =>
    if node.isElement then remaining run ++ unformatted node :: unformattedAmong "" nodes
    else unformattedAmong (run ++ node.stringValue) nodes

end

mutual

/-- A node with nothing but the elements in it, and the trimmed text of those without elements. -/
def gist : Node → Node
  | element name children =>
    element name (if children.any isElement then gists children
      else [text (Text.trimmed (stringValues children))])
  | node => node

/-- The gists of the elements among some nodes. -/
def gists : List Node → List Node
  | [] => []
  | node :: nodes => if node.isElement then gist node :: gists nodes else gists nodes

end

theorem gists_eq (nodes : List Node) : gists nodes = (nodes.filter isElement).map gist := by
  induction nodes with
  | nil => rfl
  | cons node nodes ih =>
    rw [gists, ih]
    by_cases h : node.isElement = true <;> simp [h]

theorem isElement_unformatted (node : Node) : node.unformatted.isElement = node.isElement := by
  cases node <;> rfl

theorem gists_append (nodes more : List Node) :
    gists (nodes ++ more) = gists nodes ++ gists more := by
  rw [gists_eq, gists_eq, gists_eq, List.filter_append, List.map_append]

/-! ## Taking formatting away keeps the gist -/

theorem any_isElement_remaining (text : String) : (remaining text).any isElement = false := by
  rw [remaining]
  split <;> rfl

theorem gists_remaining (text : String) : gists (remaining text) = [] := by
  rw [remaining]
  split <;> rfl

/-- What remains of a text is trimmed to the same as the text. -/
theorem trimmed_stringValues_remaining (text : String) :
    Text.trimmed (stringValues (remaining text)) = Text.trimmed text := by
  rw [remaining]
  split
  · next hspace => rw [trimmed_eq_empty hspace, stringValues, Text.trimmed, String.toList_empty,
      Text.trim_nil, String.ofList_nil]
  · rw [stringValues, stringValues, stringValue, String.append_empty]

theorem any_isElement_unformattedAmong (run : String) (nodes : List Node) :
    (unformattedAmong run nodes).any isElement = nodes.any isElement := by
  induction nodes generalizing run with
  | nil => rw [unformattedAmong, any_isElement_remaining, List.any_nil]
  | cons node nodes ih =>
    rw [unformattedAmong, List.any_cons]
    by_cases h : node.isElement = true
    · rw [if_pos h, List.any_append, List.any_cons, isElement_unformatted, ih,
        any_isElement_remaining, Bool.false_or]
    · rw [if_neg h, ih, Bool.eq_false_iff.mpr h, Bool.false_or]

-- Whether an element holds elements decides how both functions go on below it, and that is the same
-- before and after; so the induction is on the tree, with one case for each of the two ways.
mutual

/-- Taking formatting away does not change the gist. -/
theorem gist_unformatted (node : Node) : node.unformatted.gist = node.gist := by
  match node with
  | element name children =>
    rw [unformatted]
    by_cases h : children.any isElement = true
    · rw [if_pos h, gist, gist, any_isElement_unformattedAmong, if_pos h, if_pos h,
        gists_unformattedAmong]
    · rw [if_neg h, gist, gist, any_isElement_remaining, if_neg Bool.false_ne_true, if_neg h,
        trimmed_stringValues_remaining, trimmed_stripped]
  | text _ => rfl
  | comment _ => rfl
  | instruction _ _ => rfl

/-- Taking formatting away does not change the gists of the elements. -/
theorem gists_unformattedAmong (run : String) (nodes : List Node) :
    gists (unformattedAmong run nodes) = gists nodes := by
  match nodes with
  | [] => rw [unformattedAmong, gists_remaining, gists]
  | node :: nodes =>
    rw [unformattedAmong, gists]
    by_cases h : node.isElement = true
    · have hunformatted : node.unformatted.isElement = true := by rw [isElement_unformatted, h]
      rw [if_pos h, if_pos h, gists_append, gists_remaining, List.nil_append, gists,
        if_pos hunformatted, gist_unformatted, gists_unformattedAmong]
    · rw [if_neg h, if_neg h, gists_unformattedAmong]

end

/-! ## What the gist tells -/

theorem name?_gist (node : Node) : node.gist.name? = node.name? := by
  cases node <;> rfl

theorem isNamed_gist (name : String) (node : Node) :
    node.gist.isNamed name = node.isNamed name := by
  rw [isNamed, isNamed, name?_gist]

/-- The elements of a name among some nodes are left in their gists. -/
theorem filter_isNamed_gists (name : String) (nodes : List Node) :
    (gists nodes).filter (isNamed name) = (nodes.filter (isNamed name)).map gist := by
  have hgist : isNamed name ∘ gist = isNamed name := funext (isNamed_gist name)
  rw [gists_eq, List.filter_map, hgist, List.filter_filter]
  congr 1
  apply List.filter_congr
  intro node _
  cases hnamed : node.isNamed name with
  | true => rw [isElement_of_isNamed hnamed, Bool.and_self]
  | false => rw [Bool.false_and]

/-- Without an element among them, no nodes have a name. -/
theorem filter_isNamed_eq_nil (name : String) {nodes : List Node}
    (h : ¬nodes.any isElement = true) : nodes.filter (isNamed name) = [] := by
  rw [List.filter_eq_nil_iff]
  intro node hnode hnamed
  exact h (List.any_eq_true.mpr ⟨node, hnode, isElement_of_isNamed hnamed⟩)

/-- The children of a name in the gist are the gists of those children. -/
theorem childrenNamed_gist (name : String) (node : Node) :
    node.gist.childrenNamed name = (node.childrenNamed name).map gist := by
  cases node with
  | element root nodes =>
    simp only [gist, childrenNamed, children]
    by_cases h : nodes.any isElement = true
    · rw [if_pos h, filter_isNamed_gists]
    · rw [if_neg h, filter_isNamed_eq_nil name h]
      rfl
  | text _ => rfl
  | comment _ => rfl
  | instruction _ _ => rfl

/-- An element that holds no elements is read alike in the gist. -/
theorem trimmed_stringValue_gist {node : Node} (h : node.isLeaf = true) :
    Text.trimmed node.gist.stringValue = Text.trimmed node.stringValue := by
  cases node with
  | element name nodes =>
    have hleaf : ¬nodes.any isElement = true := by simpa [isLeaf, children] using h
    rw [gist, if_neg hleaf, stringValue, stringValue, stringValues, stringValues, stringValue,
      String.append_empty, Text.trimmed_trimmed]
  | text _ => rfl
  | comment _ => rfl
  | instruction _ _ => rfl

theorem elements_eq_nil {node : Node} (h : ¬node.isElement = true) : node.elements = [] := by
  cases node with
  | element _ _ => exact absurd rfl h
  | text _ => rfl
  | comment _ => rfl
  | instruction _ _ => rfl

theorem elementsAmong_eq_nil {nodes : List Node} (h : ¬nodes.any isElement = true) :
    elementsAmong nodes = [] := by
  induction nodes with
  | nil => rfl
  | cons node nodes ih =>
    rw [List.any_cons, Bool.or_eq_true, not_or] at h
    rw [elementsAmong, elements_eq_nil h.1, ih h.2, List.nil_append]

mutual

/-- The elements of the gist are the gists of the elements. -/
theorem elements_gist (node : Node) : node.gist.elements = node.elements.map gist := by
  match node with
  | element name children =>
    rw [elements, List.map_cons, gist, elements]
    by_cases h : children.any isElement = true
    · rw [if_pos h, elementsAmong_gists]
    · rw [if_neg h, elementsAmong_eq_nil h]
      rfl
  | text _ => rfl
  | comment _ => rfl
  | instruction _ _ => rfl

/-- The elements of the gists of some nodes are the gists of their elements. -/
theorem elementsAmong_gists (nodes : List Node) :
    elementsAmong (gists nodes) = (elementsAmong nodes).map gist := by
  match nodes with
  | [] => rfl
  | node :: nodes =>
    rw [gists, elementsAmong, List.map_append, ← elementsAmong_gists nodes]
    by_cases h : node.isElement = true
    · rw [if_pos h, elementsAmong, elements_gist]
    · rw [if_neg h, elements_eq_nil h, List.map_nil, List.nil_append]

end

end Node

end ReleaseStaging.Xml
