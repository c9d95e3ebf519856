import ReleaseStaging.Failure
import ReleaseStaging.Query.Reader
import ReleaseStaging.Query.Selection
import ReleaseStaging.Text.Quoted
import ReleaseStaging.Xml.Reader

/-!
# Reports of the server

Every answer of the server that matters is a document. A `Report` remembers where its document
came from, so that a query that finds nothing can be reported against the address that was asked.
-/

namespace ReleaseStaging

/-- A path query together with the expression by which messages name it. -/
structure Query where
  /-- The expression as it was written. -/
  expression : String
  /-- The path it stands for. -/
  path : Query.Path
  deriving DecidableEq, Repr

namespace Query

/-- The query that an expression holds. -/
def compile (expression : String) : Except Failure Query :=
  match Path.ofText expression with
  | .ok path => .ok ⟨expression, path⟩
  | .error fault => .error (.invalidQuery expression fault.message)

/-- The query of a path, named by its canonical form. -/
def ofPath (path : Path) : Query :=
  ⟨path.text, path⟩

/-- The query for children of the given names, one below the other. -/
def below (names : List String) : Query :=
  ofPath (.below names)

/-- The query for elements of the given names from the document on. -/
def fromTop (names : List String) : Query :=
  ofPath (.fromTop names)

end Query

/-- A document and the place it came from. -/
structure Report where
  /-- The address, or another name of the source. -/
  source : String
  /-- The document. -/
  document : Xml.Document
  deriving Repr

namespace Report

open Query (Site)

/-- The report that a text from the given source holds. -/
def ofText (source text : String) : Except Failure Report :=
  match Xml.Document.ofString? text with
  | some document => .ok ⟨source, document⟩
  | none => .error (.unreadable source)

/-- The root element. -/
def root (report : Report) : Site :=
  .rootOf report.document

/-- The nodes a query selects from a context. -/
def select (report : Report) (context : Site) (query : Query) : List Site :=
  query.path.select report.document context

/-- The text of the first node that a query selects from a context, as it stands. -/
def rawText? (report : Report) (context : Site) (query : Query) : Option String :=
  (report.select context query).head?.map fun site => site.node.stringValue

/-- The text of the first node that a query selects from a context, without white space around
it. -/
def text? (report : Report) (context : Site) (query : Query) : Option String :=
  (report.rawText? context query).map Text.trimmed

/-- The failure of a query that selects nothing. -/
def missing (report : Report) (query : Query) : Failure :=
  .missingNode report.source query.expression

/-- The failure of a query whose text means nothing. -/
def invalid (report : Report) (query : Query) (value : String) : Failure :=
  .invalidValue report.source query.expression value

/-- The text of the first node that a query selects from a context; there must be one. -/
def requiredText (report : Report) (context : Site) (query : Query) : Except Failure String :=
  match report.text? context query with
  | some text => .ok text
  | none => .error (report.missing query)

/-- The truth value in the text of the first node that a query selects. -/
def requiredBool (report : Report) (query : Query) : Except Failure Bool :=
  match report.requiredText report.root query with
  | .error failure => .error failure
  | .ok value =>
    if value = "true" then .ok true
    else if value = "false" then .ok false
    else .error (report.invalid query value)

/-- The report as developers see it. -/
def shown (report : Report) : String :=
  Text.shownRecord "XmlDocument"
    [("source", Text.quoted report.source), ("root", Text.quoted report.document.rootName)] false

end Report

end ReleaseStaging
