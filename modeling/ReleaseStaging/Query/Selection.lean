import ReleaseStaging.Query.Path
import ReleaseStaging.Text.Blank
import ReleaseStaging.Xml.Node

/-!
# What a query selects

An element of a document is known by its place: the positions that lead to it from the document.
The order of places is the order of the document. A query selects places, each once and in this
order.
-/

namespace ReleaseStaging.Query

open ReleaseStaging.Xml

/-- A node together with its place in the document. -/
structure Site where
  /-- The positions among siblings that lead to the node. -/
  place : List Nat
  /-- The node. -/
  node : Node
  deriving Repr, Inhabited

namespace Site

/-- The children of a node with their places, counted from the given position on. -/
def ofChildren (place : List Nat) (position : Nat) : List Node → List Site
  | [] => []
  | node :: nodes => ⟨place ++ [position], node⟩ :: ofChildren place (position + 1) nodes

/-- The children of a node. -/
def children (site : Site) : List Site :=
  ofChildren site.place 0 site.node.children

mutual

/-- The elements at and below a node, in document order. -/
def elementsAt (place : List Nat) (node : Node) : List Site :=
  match node with
  | .element name children =>
    ⟨place, .element name children⟩ :: elementsAmong place 0 children
  | _ => []

/-- The elements at and below some siblings, in document order. -/
def elementsAmong (place : List Nat) (position : Nat) : List Node → List Site
  | [] => []
  | node :: nodes =>
    elementsAt (place ++ [position]) node ++ elementsAmong place (position + 1) nodes

end

/-- The elements at and below a node, in document order. -/
def elements (site : Site) : List Site :=
  elementsAt site.place site.node

/-- The document itself, as the parent of its root element; it stands for no element. -/
def ofDocument (document : Document) : Site :=
  ⟨[], .element "" document.topNodes⟩

/-- The root element. -/
def rootOf (document : Document) : Site :=
  ⟨[document.before.length], document.root⟩

/-- Whether a place does not come after another: a node comes before the nodes below it, and those
before its later siblings. -/
def isBefore : List Nat → List Nat → Bool
  | [], _ => true
  | _ :: _, [] => false
  | a :: place, b :: other => a < b || (a == b && isBefore place other)

/-- Document order, with equal places next to each other. -/
def precedes (a b : Site) : Bool :=
  isBefore a.place b.place

/-- Some sites without those that repeat the place before them. -/
def withoutRepeats : List Site → List Site
  | [] => []
  | [site] => [site]
  | a :: b :: sites =>
    if a.place = b.place then withoutRepeats (a :: sites) else a :: withoutRepeats (b :: sites)
termination_by sites => sites.length

/-- Some sites in document order, each once. -/
def inOrder (sites : List Site) : List Site :=
  withoutRepeats (sites.mergeSort precedes)

end Site

/-- Whether a node has the name that a step asks for. -/
def Step.matchesName (step : Step) (node : Node) : Bool :=
  match node.name? with
  | none => false
  | some name => step.name.all (· == name)

/-- The candidates that a predicate keeps. -/
def Predicate.keep (predicate : Predicate) (candidates : List Site) : List Site :=
  match predicate with
  | position 0 => []
  | position (index + 1) => candidates[index]?.toList
  | last => candidates.getLast?.toList
  | hasChild name => candidates.filter fun site => !(site.node.childrenNamed name).isEmpty
  | childEquals name literal =>
    candidates.filter fun site =>
      (site.node.childrenNamed name).any fun child => Text.trimmed child.stringValue == literal

/-- The children of a node that a step takes. -/
def Step.take (step : Step) (parent : Site) : List Site :=
  step.predicates.foldl (fun candidates predicate => predicate.keep candidates)
    (parent.children.filter fun site => step.matchesName site.node)

/-- The parents whose children a step looks at from a node. -/
def Step.parents (step : Step) (site : Site) : List Site :=
  match step.axis with
  | .child => [site]
  | .descendant => site.elements

/-- The sites a step leads to from some others. -/
def Step.follow (step : Step) (sites : List Site) : List Site :=
  Site.inOrder (sites.flatMap fun site => (step.parents site).flatMap step.take)

/-- The sites that a path selects in a document, seen from a context in it. -/
def Path.select (path : Path) (document : Document) (context : Site) : List Site :=
  let start := if path.isAbsolute then Site.ofDocument document else context
  path.steps.foldl (fun sites step => step.follow sites) [start]

end ReleaseStaging.Query
