import ReleaseStaging.Xml.Node
import ReleaseStaging.Xml.Reference

/-!
# Reading documents

A document is read by adding its pieces of markup one after another to the part of the tree that
is already there. `Document.ofChars?` reads a whole text; it refuses whatever is not well-formed,
names with a prefix that no enclosing element declares, repeated attributes and document type
definitions.
-/

namespace ReleaseStaging.Xml

/-! ## Namespaces -/

/-- The declarations that hold inside an element: prefixes, none for the default, with the
namespaces they stand for. -/
abbrev Scope := List (List Char × List Char)

/-- The namespace of the prefix `xml`. -/
def xmlNamespace : List Char := "http://www.w3.org/XML/1998/namespace".toList

/-- The namespace of the prefix that declares prefixes. -/
def xmlnsNamespace : List Char := "http://www.w3.org/2000/xmlns/".toList

/-- The word that declares a prefix or the default namespace. -/
def xmlns : List Char := "xmlns".toList

/-- What the attributes of one element say: the namespaces it declares and all other attributes
by name. -/
structure Declarations where
  /-- Prefixes declared on this element. -/
  scope : Scope
  /-- The names of the attributes that declare nothing. -/
  names : List QName

/-- Adds an attribute: a declaration of a prefix, of the default namespace, or none of these. An
element declares a prefix once; it may declare a default namespace again. -/
def Declarations.add? (declared : Declarations) (written : Attribute) : Option Declarations :=
  match attributeValue? written.value with
  | none => none
  | some value =>
    if written.name.label = xmlns then
      let label := written.name.localPart
      if value = xmlnsNamespace || (label == ['x', 'm', 'l']) != (value == xmlNamespace) ||
          (declared.scope.lookup label).isSome then none
      else if value = xmlNamespace then some declared
      else some { declared with scope := (label, value) :: declared.scope }
    else if written.name.localPart = xmlns then
      if value = xmlnsNamespace || value = xmlNamespace then none
      else some { declared with scope := ([], value) :: declared.scope }
    else some { declared with names := written.name :: declared.names }

/-- The namespace and local name of an attribute; one without a prefix has no namespace. -/
def expandedName? (scope : Scope) (name : QName) : Option (Option (List Char) × List Char) :=
  if name.label = ['x', 'm', 'l'] then some (some xmlNamespace, name.localPart)
  else if name.label.isEmpty then some (none, name.localPart)
  else (scope.lookup name.label).map fun space => (some space, name.localPart)

/-- Whether no name occurs twice. -/
def allDistinct : List (Option (List Char) × List Char) → Bool
  | [] => true
  | name :: names => !names.contains name && allDistinct names

/-- The scope inside an element with this tag, unless the tag breaks a rule of namespaces. -/
def enter? (outer : Scope) (name : QName) (attributes : List Attribute) : Option Scope :=
  match attributes.foldlM Declarations.add? ⟨[], []⟩ with
  | none => none
  | some declared =>
    let scope := declared.scope ++ outer
    if name.label = xmlns then none
    else if !name.label.isEmpty && (scope.lookup name.label).isNone then none
    else match declared.names.mapM (expandedName? scope) with
      | none => none
      | some names => if allDistinct names then some scope else none

/-! ## The tree as far as it is read -/

/-- An element whose end tag has not been read. -/
structure OpenElement where
  /-- The name as its start tag has it. -/
  name : QName
  /-- The namespaces that hold inside. -/
  scope : Scope
  /-- The content read so far, last node first. -/
  content : List Node

/-- The finished element. -/
def OpenElement.close (opened : OpenElement) : Node :=
  .element (String.ofList opened.name.localPart) opened.content.reverse

/-- Adds a node to the content. -/
def OpenElement.push (opened : OpenElement) (node : Node) : OpenElement :=
  { opened with content := node :: opened.content }

/-- A document as far as it is read; lists of nodes have the last one first. -/
inductive Partial where
  /-- The root element has not been opened. -/
  | prolog (before : List Node)
  /-- Some elements are open, the innermost first. -/
  | inside (before : List Node) (opened : OpenElement) (outer : List OpenElement)
  /-- The root element has ended. -/
  | epilog (before : List Node) (rootName : String) (rootChildren : List Node) (after : List Node)

namespace Partial

/-- The part read so far with the innermost element ended. -/
def closeElement (before : List Node) (opened : OpenElement) : List OpenElement → Partial
  | [] => .epilog before (String.ofList opened.name.localPart) opened.content.reverse []
  | parent :: outer => .inside before (parent.push opened.close) outer

/-- Adds a node that stands anywhere. -/
def addNode (node : Node) : Partial → Partial
  | prolog before => .prolog (node :: before)
  | inside before opened outer => .inside before (opened.push node) outer
  | epilog before name children after => .epilog before name children (node :: after)

/-- Adds a piece of markup. -/
def add? (read : Partial) : Token → Option Partial
  | .comment content => some (read.addNode (.comment (String.ofList content)))
  | .instruction target content =>
    some (read.addNode (.instruction (String.ofList target) (String.ofList content)))
  | .quotation content =>
    match read with
    | inside before opened outer =>
      some (.inside before (opened.push (.text (String.ofList (lineEnds content)))) outer)
    | _ => none
  | .text raw =>
    match read with
    | inside before opened outer =>
      (characterData? raw).map fun content =>
        .inside before (opened.push (.text (String.ofList content))) outer
    | _ => if raw.all isSpace then some read else none
  | .startTag name attributes isEmpty =>
    match read with
    | prolog before =>
      (enter? [] name attributes).map fun scope =>
        if isEmpty then closeElement before ⟨name, scope, []⟩ []
        else .inside before ⟨name, scope, []⟩ []
    | inside before opened outer =>
      (enter? opened.scope name attributes).map fun scope =>
        if isEmpty then closeElement before ⟨name, scope, []⟩ (opened :: outer)
        else .inside before ⟨name, scope, []⟩ (opened :: outer)
    | epilog .. => none
  | .endTag name =>
    match read with
    | inside before opened outer =>
      if opened.name = name then some (closeElement before opened outer) else none
    | _ => none

/-- The document, if everything that was opened has ended. -/
def finish? : Partial → Option Document
  | epilog before name children after => some ⟨before.reverse, name, children, after.reverse⟩
  | _ => none

end Partial

/-! ## Whole documents -/

/-- The attribute of an XML declaration whose name starts with the given word, and what follows
it and the white space after it. -/
def declarationPart? (word text : List Char) : Option (List Char) :=
  if word.isPrefixOf text then
    match Attribute.next? text with
    | none => none
    | some (_, rest) =>
      let isOver := rest.isEmpty || ['?', '>'].isPrefixOf rest
      if (rest.takeWhile isSpace).isEmpty && !isOver then none
      else some (rest.dropWhile isSpace)
  else none

/-- What follows the XML declaration that opens with the characters before `text`: a version, and
then an encoding and a statement on standing alone if it has them. -/
def afterDeclaration? (text : List Char) : Option (List Char) := do
  let text ← declarationPart? "version".toList (text.dropWhile isSpace)
  let text ← if "encoding".toList.isPrefixOf text then declarationPart? "encoding".toList text
    else some text
  let text ← if "standalone".toList.isPrefixOf text then
      (Attribute.next? text).map fun (_, rest) => rest.dropWhile isSpace
    else some text
  Text.after? ['?', '>'] text

/-- A text without the mark of its byte order. -/
def withoutMark : List Char → List Char
  | '\uFEFF' :: text => text
  | text => text

/-- The content of a text after its XML declaration, if it has one. -/
def body? (text : List Char) : Option (List Char) :=
  match Text.after? "<?xml ".toList (withoutMark text) with
  | none => some (withoutMark text)
  | some rest => afterDeclaration? rest

/-- The document with the given pieces of markup. -/
def Document.ofTokens? (tokens : List Token) : Option Document :=
  (tokens.foldlM Partial.add? (.prolog [])).bind Partial.finish?

/-- The document that a text holds. -/
def Document.ofChars? (text : List Char) : Option Document :=
  ((body? text).bind Token.ofChars?).bind ofTokens?

/-- The document that a text holds. -/
def Document.ofString? (text : String) : Option Document :=
  ofChars? text.toList

end ReleaseStaging.Xml
