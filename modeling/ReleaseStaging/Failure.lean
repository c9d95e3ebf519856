import ReleaseStaging.Stage.Action

/-!
# Failures

Everything that can go wrong between a caller and the staging server is one `Failure`. Each has
one message, belongs to one family of failures, which tells a caller whether another attempt can
help, and may carry the status that the server answered.
-/

namespace ReleaseStaging

/-- The method of a request. -/
inductive Method where
  /-- Fetch a document. -/
  | get
  /-- Ask for the status only. -/
  | head
  /-- Send a document. -/
  | post
  deriving DecidableEq, Repr

/-- The word of a method in a request line. -/
def Method.word : Method → String
  | get => "GET"
  | head => "HEAD"
  | post => "POST"

/-- Different methods have different words. -/
theorem Method.word_injective {a b : Method} (h : a.word = b.word) : a = b := by
  cases a <;> cases b <;> simp_all [word]

/-- The family a failure belongs to. -/
inductive Origin where
  /-- The request was never completed or the server answered an unexpected status. -/
  | transport
  /-- The answer could not be read or lacked a required part. -/
  | parse
  /-- The server understood the request and reported a failure. -/
  | protocol
  /-- The caller gave up while waiting. -/
  | interrupted
  deriving DecidableEq, Repr

/-- Why a request was never completed. -/
structure TransportFault where
  /-- What went wrong. -/
  reason : String
  /-- What caused it, the nearest cause first. -/
  causes : List String
  deriving DecidableEq, Repr, Inhabited

/-- What went wrong in an operation on the staging server. -/
inductive Failure where
  /-- An endpoint is no address. -/
  | malformedEndpoint (endpoint reason : String)
  /-- An identifier cannot be one segment of a path. -/
  | invalidSegment (segment : String)
  /-- The base address cannot be used. -/
  | invalidBaseUrl (url reason : String)
  /-- A request failed before an answer was received. -/
  | transport (method : Method) (url : String) (fault : TransportFault)
  /-- The server answered with a status that the operation does not accept. -/
  | unexpectedStatus (method : Method) (url : String) (status : Nat)
  /-- The server did not accept a transition. -/
  | actionRejected (action : Action) (stage : Stage) (status : Nat)
  /-- The body of an answer is not well-formed. Where and why it is not, which the message ends
  with, is left out: it is in the words of the parser. -/
  | unreadable (url : String)
  /-- A path query is not in the language of queries. -/
  | invalidQuery (expression reason : String)
  /-- A required node is absent from an answer. -/
  | missingNode (url path : String)
  /-- The text of a node could not be interpreted. -/
  | invalidValue (url path value : String)
  /-- The version of the server does not start with a number. -/
  | unrecognisedVersion (version : String)
  /-- The status document does not report a permission. -/
  | permissionNotReported (url permission : String)
  /-- The user lacks a permission. -/
  | insufficientPrivileges (permission : String)
  /-- The server recorded a transition as failed. -/
  | actionFailed (message : String)
  /-- A transition ended and was recorded neither as failed nor as done. -/
  | unrecordedOutcome (action : Action) (stage : Stage)
  /-- Waiting for a transition was cancelled. -/
  | interrupted (stage : Stage) (reason : String)
  /-- A bounded wait ran out of polls. -/
  | pollLimitReached (stage : Stage) (attempts : Nat)
  /-- The configuration could not be loaded or is not valid. -/
  | configuration (reason : String)
  deriving DecidableEq, Repr

namespace Failure

/-- The message shown to the user. -/
def message : Failure → String
  | malformedEndpoint endpoint reason => s!"Malformed endpoint '{endpoint}': {reason}"
  | invalidSegment segment => s!"'{segment}' cannot be used as a URL path segment"
  | invalidBaseUrl url reason => s!"Invalid base URL '{url}': {reason}"
  | transport method url fault => s!"{method.word} {url} failed: {fault.reason}"
  | unexpectedStatus method url status =>
    s!"{method.word} {url} returned unexpected status {status}"
  | actionRejected action stage status =>
    s!"Failed to {action.word} stage {stage.display}: server returned status {status}"
  -- What follows, after a colon, are the words of the parser.
  | unreadable url => s!"Failed to parse response from {url}"
  | invalidQuery expression reason => s!"Invalid path query '{expression}': {reason}"
  | missingNode url path => s!"Response from {url} has no node matching '{path}'"
  | invalidValue url path value => s!"Response from {url} has invalid value '{value}' at '{path}'"
  | unrecognisedVersion version => s!"Unrecognised server version '{version}'"
  | permissionNotReported url permission =>
    s!"Invalid response from {url}: permission '{permission}' is not reported, " ++
      "is this a Nexus server?"
  | insufficientPrivileges permission =>
    s!"User has insufficient privileges: missing permission '{permission}'"
  | actionFailed message => message
  | unrecordedOutcome action stage =>
    s!"Stage {stage.display} {action.word} completed but was not recorded as failed or succeeded"
  | interrupted stage reason => s!"Interrupted while waiting for stage {stage.display}: {reason}"
  | pollLimitReached stage attempts =>
    s!"Stage {stage.display} still transitioning after {attempts} polls"
  | configuration reason => s!"Configuration error: {reason}"

/-- The family of a failure. -/
def origin : Failure → Origin
  | malformedEndpoint .. | invalidSegment .. | invalidBaseUrl .. | transport ..
  | unexpectedStatus .. | actionRejected .. | configuration .. => .transport
  | unreadable .. | invalidQuery .. | missingNode .. | invalidValue ..
  | unrecognisedVersion .. => .parse
  | permissionNotReported .. | insufficientPrivileges .. | actionFailed ..
  | unrecordedOutcome .. | pollLimitReached .. => .protocol
  | interrupted .. => .interrupted

/-- The status that the server answered, if the failure is about one. -/
def status? : Failure → Option Nat
  | unexpectedStatus _ _ status | actionRejected _ _ status => some status
  | _ => none

/-- Whether the failure was caused by a failure of another layer. -/
def hasCause : Failure → Bool
  | malformedEndpoint .. | transport .. | unreadable .. => true
  | _ => false

/-- The message of a failure, followed by what caused it as far as that is a failure of another
layer. -/
def chain (failure : Failure) : List String :=
  match failure with
  | malformedEndpoint _ reason => [failure.message, reason]
  | transport _ _ fault => failure.message :: fault.reason :: fault.causes
  | _ => [failure.message]

/-- Only a cancelled wait is an interruption. -/
theorem origin_eq_interrupted_iff (failure : Failure) :
    failure.origin = .interrupted ↔ ∃ stage reason, failure = .interrupted stage reason := by
  cases failure <;> simp [origin]

end Failure

end ReleaseStaging
