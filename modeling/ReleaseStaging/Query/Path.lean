import ReleaseStaging.Text.Scan

/-!
# Path queries

A path query names elements of a document by the way that leads to them: steps to children or to
descendants, each for a name or for any name, each narrowed by predicates. `Path.text` writes a
query in its canonical form.
-/

namespace ReleaseStaging.Query

/-- How a step relates to the elements selected before it. -/
inductive Axis where
  /-- The children of an element. -/
  | child
  /-- The children of an element and of everything below it. -/
  | descendant
  deriving DecidableEq, Repr

/-- A condition on the candidates of a step. -/
inductive Predicate where
  /-- The candidate at a position, counted from 1. -/
  | position (index : Nat)
  /-- The last candidate. -/
  | last
  /-- Candidates with a child of the given name. -/
  | hasChild (name : String)
  /-- Candidates with a child of the given name whose trimmed text is the given one. -/
  | childEquals (name literal : String)
  deriving DecidableEq, Repr

/-- One step of a path. -/
structure Step where
  /-- Where the candidates are looked for. -/
  axis : Axis
  /-- The name of the candidates; none stands for any name. -/
  name : Option String
  /-- The conditions, applied one after another. -/
  predicates : List Predicate
  deriving DecidableEq, Repr

/-- A path query. -/
structure Path where
  /-- Whether the path starts at the document whatever the context. -/
  isAbsolute : Bool
  /-- The steps in order. -/
  steps : List Step
  deriving DecidableEq, Repr

/-! ## The canonical form -/

/-- The separator that stands for an axis. -/
def Axis.text : Axis → String
  | child => "/"
  | descendant => "//"

/-- A literal in single quotes, or in double quotes if it holds a single quote. -/
def literalText (literal : String) : String :=
  if literal.toList.contains '\'' then "\"" ++ literal ++ "\"" else "'" ++ literal ++ "'"

/-- A predicate in its brackets. -/
def Predicate.text : Predicate → String
  | position index => s!"[{index}]"
  | last => "[last()]"
  | hasChild name => s!"[{name}]"
  | childEquals name literal => s!"[{name}={literalText literal}]"

/-- A step without its separator. -/
def Step.text (step : Step) : String :=
  step.name.getD "*" ++ String.join (step.predicates.map Predicate.text)

/-- A path in its canonical form. -/
def Path.text (path : Path) : String :=
  match path.steps with
  | [] => ""
  | first :: rest =>
    (if path.isAbsolute then first.axis.text else "") ++ first.text ++
      String.join (rest.map fun step => step.axis.text ++ step.text)

/-! ## Plain paths -/

/-- A step to the children of a name. -/
def Step.toChild (name : String) : Step :=
  ⟨.child, some name, []⟩

/-- The path from the context through children of the given names. -/
def Path.below (names : List String) : Path :=
  ⟨false, names.map Step.toChild⟩

/-- The path from the document through elements of the given names. -/
def Path.fromTop (names : List String) : Path :=
  ⟨true, names.map Step.toChild⟩

end ReleaseStaging.Query
