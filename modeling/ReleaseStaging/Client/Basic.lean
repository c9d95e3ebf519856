import ReleaseStaging.PollSettings
import ReleaseStaging.Program
import ReleaseStaging.Report

/-!
# The client of a server

A client knows where the server is and how patient it has to be. Everything else it learns by
asking, and what the server is able to do it asks only once.
-/

namespace ReleaseStaging

/-- A client of one server. -/
structure Client where
  /-- The base address, below which all endpoints are. -/
  base : Url
  /-- How to wait for transitions. -/
  poll : PollSettings
  /-- The number of polls of one wait that are followed. -/
  horizon : Nat
  deriving DecidableEq, Repr

namespace Client

/-- The number of polls that are followed when nothing else is said. -/
def farHorizon : Nat := UInt64.size

/-- The client of the server at a base address that a user gave. -/
def ofBase (given : String) (poll : PollSettings) : Except Failure Client := do
  let base ← baseUrl given
  return ⟨base, poll, farHorizon⟩

/-- The client as developers see it, with what it remembers of the server. -/
def shown (client : Client) (memo : Option Capability) : String :=
  let capability := fun capability : Capability =>
    Text.shownRecord "ServerCapability"
      [("version", Text.quoted capability.version),
        ("async_actions", toString capability.asyncActions)] false
  Text.shownRecord "StageClient"
    [("base_url", Text.quoted client.base.text), ("poll", client.poll.shown),
      ("capability", Text.shownOption capability memo)] true

/-- The text at an address; only an answer with status 200 has one. -/
def fetch (url : Url) : Operation String := do
  let response ← Operation.send (.get url)
  if response.status = 200 then return response.body
  else throw (.unexpectedStatus .get url.text response.status)

/-- The report at an address. -/
def fetchReport (url : Url) : Operation Report := do
  let body ← fetch url
  Report.ofText url.text body

end Client

end ReleaseStaging
