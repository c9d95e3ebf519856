import ReleaseStaging.Client.Basic

/-!
# Waiting for a transition

A transition that runs in the background is waited for by polling: the repository is asked whether
it is transitioning, at most as often as the settings allow, with a pause after each answer that it
still is. A cancellation is noticed before each poll and during each pause.
-/

namespace ReleaseStaging

/-- The query for whether a repository is transitioning. -/
def transitioningQuery : Query :=
  .fromTop ["stagingProfileRepository", "transitioning"]

namespace Client

/-- One poll: whether the repository at an endpoint is transitioning. -/
def isTransitioning (endpoint : Url) : Operation Bool := do
  let report ← fetchReport endpoint
  report.requiredBool transitioningQuery

/-- Polls the repository of a stage after the given number of polls, for at most `horizon` more of
them. -/
def pollFrom (client : Client) (stage : Stage) (endpoint : Url) :
    (horizon : Nat) → (attempts : UInt32) → Operation Unit
  | 0, _ => ExceptT.mk .unfinished
  | horizon + 1, attempts => do
    -- A token that is cancelled has its reason here, see `SharedToken.alone_eq`.
    match ← Operation.perform .cancellation with
    | some reason => throw (.interrupted stage reason)
    | none =>
      let attempts := attempts + 1
      unless ← isTransitioning endpoint do return
      if client.poll.isExhausted attempts then throw (.pollLimitReached stage attempts.toNat)
      match ← Operation.perform (.pause client.poll.intervalMillis.toNat) with
      | some reason => throw (.interrupted stage reason)
      | none => client.pollFrom stage endpoint horizon attempts

/-- Waits until the server no longer reports a stage as transitioning. -/
def waitForTransition (client : Client) (stage : Stage) : Operation Unit := do
  let endpoint ← repositoryEndpoint client.base stage none
  client.pollFrom stage endpoint client.horizon 0

end Client

end ReleaseStaging
