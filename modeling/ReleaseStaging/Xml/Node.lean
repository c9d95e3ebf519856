/-!
# Document trees

The content of an element is a list of nodes: elements, text, comments and processing
instructions. The string value of a node is all text below it.
-/

namespace ReleaseStaging.Xml

/-- A node of a document; elements are named without their namespace prefix. -/
inductive Node where
  /-- An element and its content. -/
  | element (name : String) (children : List Node)
  /-- A run of text. -/
  | text (content : String)
  /-- A comment. -/
  | comment (content : String)
  /-- A processing instruction. -/
  | instruction (target content : String)
  deriving Repr, Inhabited

namespace Node

/-- Whether a node is an element. -/
def isElement : Node → Bool
  | element .. => true
  | _ => false

/-- The name of an element; other nodes have none. -/
def name? : Node → Option String
  | element name _ => some name
  | _ => none

/-- The content of an element; other nodes have none. -/
def children : Node → List Node
  | element _ children => children
  | _ => []

/-- Whether a node is an element of the given name. -/
def isNamed (name : String) (node : Node) : Bool :=
  node.name? == some name

mutual

/-- All text below a node, in document order. -/
def stringValue : Node → String
  | element _ children => stringValues children
  | text content => content
  | comment _ => ""
  | instruction _ _ => ""

/-- All text below some nodes, in document order. -/
def stringValues : List Node → String
  | [] => ""
  | node :: nodes => node.stringValue ++ stringValues nodes

end

/-- The children of a node that are elements of the given name. -/
def childrenNamed (name : String) (node : Node) : List Node :=
  node.children.filter (isNamed name)

end Node

/-- A document: one root element, with comments and processing instructions around it. -/
structure Document where
  /-- The nodes before the root element. -/
  before : List Node
  /-- The name of the root element. -/
  rootName : String
  /-- The content of the root element. -/
  rootChildren : List Node
  /-- The nodes after the root element. -/
  after : List Node
  deriving Repr, Inhabited

namespace Document

/-- The root element. -/
def root (document : Document) : Node :=
  .element document.rootName document.rootChildren

/-- The nodes of the document outside of all elements. -/
def topNodes (document : Document) : List Node :=
  document.before ++ document.root :: document.after

end Document

end ReleaseStaging.Xml
