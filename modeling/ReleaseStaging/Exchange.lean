import ReleaseStaging.Failure
import ReleaseStaging.Url.Basic

/-!
# Requests and answers

The server is asked for documents, for the existence of folders and for transitions. It answers
each request with a status and a body, unless the request never reaches it.
-/

namespace ReleaseStaging

/-- The type of every document that is sent. -/
def xmlContentType : String := "application/xml; charset=UTF-8"

/-- A request to the server. -/
structure Request where
  /-- The method. -/
  method : Method
  /-- The address. -/
  url : Url
  /-- The document that is sent along. -/
  body : Option String
  deriving DecidableEq, Repr

namespace Request

/-- The request for a document. -/
def get (url : Url) : Request := ⟨.get, url, none⟩

/-- The request for the status of an address only. -/
def head (url : Url) : Request := ⟨.head, url, none⟩

/-- The request that sends a document. -/
def post (url : Url) (body : String) : Request := ⟨.post, url, some body⟩

/-- The fault of a request that got no answer, with what caused it; credentials in the address are
not shown. -/
def unanswered (request : Request) (causes : List String) : TransportFault :=
  ⟨s!"error sending request for url ({request.url.withoutCredentials.text})", causes⟩

end Request

/-- The answer to a request. -/
structure Response where
  /-- The status. -/
  status : Nat
  /-- The body. -/
  body : String
  deriving DecidableEq, Repr

/-- What comes of a request. -/
abbrev Reply := Except TransportFault Response

/-- The answer of a reply; without one the failure names the request. -/
def Reply.response (request : Request) : Reply → Except Failure Response
  | .ok response => .ok response
  | .error fault => .error (.transport request.method request.url.text fault)

end ReleaseStaging
