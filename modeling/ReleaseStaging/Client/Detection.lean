import ReleaseStaging.Client.Basic

/-!
# Learning what the server is able to do

The server is asked for its version when that matters for the first time. The answer is remembered;
a failure is not, so the next operation asks again.
-/

namespace ReleaseStaging

namespace Client

/-- Asks the server what it is able to do, and remembers it. -/
def detect (client : Client) : Operation Capability := do
  let report ← fetchReport (statusEndpoint client.base)
  let version ← report.requiredText report.root (.fromTop ["status", "data", "version"])
  let capability ← Capability.ofVersion version
  Operation.perform (.remember capability)
  Operation.note (.detectedCapability capability)
  return capability

/-- What the server is able to do. -/
def capability (client : Client) : Operation Capability := do
  match ← Operation.perform .recall with
  | some capability => return capability
  | none => client.detect

/-- The version of the server. -/
def serverVersion (client : Client) : Operation String := do
  return (← client.capability).version

/-- Whether the server closes and releases in the background. -/
def isAsync (client : Client) : Operation Bool := do
  return (← client.capability).asyncActions

end Client

end ReleaseStaging
