import ReleaseStaging.Binary64.Shortest
import ReleaseStaging.Client.Basic
import ReleaseStaging.Credentials

/-!
# The configuration of a client

How to reach a server: its address, the credentials, how the client names itself, how long a
request may take and how to wait for transitions.
-/

namespace ReleaseStaging

/-- How a client names itself when nothing else is said. -/
def defaultUserAgent : String := "nexus-staging/0.1.0"

/-- How to reach a server. -/
structure Configuration where
  /-- The base address. -/
  baseUrl : String
  /-- The user name. -/
  username : String := ""
  /-- The password. -/
  password : String := ""
  /-- How the client names itself. -/
  userAgent : String := defaultUserAgent
  /-- The seconds a request may take; without it the limit of the transport holds. -/
  requestTimeout : Option Binary64 := none
  /-- How to wait for transitions. -/
  poll : PollSettings := {}
  deriving DecidableEq, Repr

namespace Configuration

/-! ## Changing a configuration -/

/-- The configuration with other credentials. -/
def withCredentials (configuration : Configuration) (username password : String) :
    Configuration :=
  { configuration with username, password }

/-- The configuration with another name of the client. -/
def withUserAgent (configuration : Configuration) (userAgent : String) : Configuration :=
  { configuration with userAgent }

/-- The configuration with a limit on the time of a request. -/
def withRequestTimeout (configuration : Configuration) (seconds : Binary64) : Configuration :=
  { configuration with requestTimeout := some seconds }

/-- The configuration with another way of waiting. -/
def withPoll (configuration : Configuration) (poll : PollSettings) : Configuration :=
  { configuration with poll }

end Configuration

namespace PollSettings

/-- The settings with another pause; one beyond 64 bits becomes the longest. -/
def withInterval (settings : PollSettings) (millis : Nat) : PollSettings :=
  { settings with intervalMillis := UInt64.ofNat (min millis (UInt64.size - 1)) }

/-- The settings with a limit on the number of polls. -/
def withMaxAttempts (settings : PollSettings) (attempts : UInt32) : PollSettings :=
  { settings with maxAttempts := some attempts }

end PollSettings

/-! ## The time limit -/

/-- The nanoseconds of a second. -/
def nanosPerSecond : Nat := 1000000000

/-- The number of nanoseconds nearest to a number of seconds, unless that is negative or has more
than 64 bits of seconds. -/
def nanoseconds? (seconds : Binary64) : Option Nat :=
  let magnitude := seconds.magnitude
  let nanos := roundQuotient (magnitude.numerator * nanosPerSecond) magnitude.denominator
  if seconds.isBelowZero || UInt64.size * nanosPerSecond ≤ nanos then none else some nanos

namespace Configuration

/-- The time a request may take in nanoseconds. -/
def timeoutNanos (configuration : Configuration) : Except Failure (Option Nat) :=
  match configuration.requestTimeout with
  | none => .ok none
  | some seconds =>
    match nanoseconds? seconds with
    | some nanos => .ok (some nanos)
    | none => .error (.configuration s!"invalid request timeout {seconds.text}")

end Configuration

/-! ## Connecting -/

/-- Who sends requests. -/
structure Http.Sender where
  /-- The value of the header that carries the credentials. -/
  authorization : String
  /-- How the client names itself. -/
  userAgent : String
  deriving DecidableEq, Repr

namespace Configuration

/-- The characters that can stand in the value of a header. -/
def isHeaderChar (c : Char) : Bool :=
  c == '\t' || (32 ≤ c.toNat && c.toNat != 127)

/-- Refuses a value that cannot stand in a header, for the given reason. -/
def requireHeader (value reason : String) : Except Failure Unit :=
  if value.toList.all isHeaderChar then .ok () else .error (.configuration reason)

/-- Who sends the requests to the configured server; the time limit is checked first, then the name
of the client, then the header with the credentials. -/
def sender (configuration : Configuration) : Except Failure Http.Sender := do
  let _ ← configuration.timeoutNanos
  requireHeader configuration.userAgent "cannot build HTTP client: builder error"
  let authorization := basicAuthorization configuration.username configuration.password
  requireHeader authorization "invalid credentials: failed to parse header value"
  return { authorization, userAgent := configuration.userAgent }

/-- The client of the configured server; the address is checked last. -/
def connect (configuration : Configuration) : Except Failure Client := do
  let _ ← configuration.sender
  Client.ofBase configuration.baseUrl configuration.poll

/-- The configuration as developers see it; the password is not shown. -/
def shown (configuration : Configuration) : String :=
  Text.shownRecord "ClientConfig"
    [("base_url", Text.quoted configuration.baseUrl),
      ("username", Text.quoted configuration.username),
      ("password", Text.quoted "<redacted>"),
      ("user_agent", Text.quoted configuration.userAgent),
      ("request_timeout_seconds", Text.shownOption Binary64.text configuration.requestTimeout),
      ("poll", configuration.poll.shown)] false

end Configuration

end ReleaseStaging
