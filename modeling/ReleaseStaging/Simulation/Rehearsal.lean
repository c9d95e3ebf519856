import ReleaseStaging.Client.Basic
import ReleaseStaging.Run
import ReleaseStaging.Simulation.Script

/-!
# Rehearsals

A rehearsal runs programs against a scripted server in a time of its own: only waiting takes time,
and exactly as long as asked. Requests can be made to fail, and a cancellation can come with a
request or at a moment.
-/

namespace ReleaseStaging

/-- The state of a rehearsal. -/
structure Rehearsal where
  /-- The server. -/
  script : Script
  /-- Which requests fail, counted from 1. -/
  failing : List Nat := []
  /-- Which requests are cancelled while on their way, with the reason. -/
  cancelling : List (Nat × String) := []
  /-- The milliseconds that have passed. -/
  clock : Nat := 0
  /-- The moment of a cancellation, with the reason. -/
  deadline : Option (Nat × String) := none

namespace Rehearsal

/-- The fault of a request that is made to fail. -/
def fault : TransportFault := ⟨"builder error", []⟩

/-- What comes of a request; a request that fails has taken its answer. -/
def answer (rehearsal : Rehearsal) (request : Request) : Reply × Option String × Rehearsal :=
  let (response, script) := rehearsal.script.answer request
  let ordinal := script.requests.length
  let reply := if rehearsal.failing.contains ordinal then .error fault else .ok response
  (reply, rehearsal.cancelling.lookup ordinal, { rehearsal with script })

/-- What happens while time passes: waiting ends at the moment of a cancellation. -/
def pass (rehearsal : Rehearsal) (millis : Nat) : Option String × Rehearsal :=
  let later := rehearsal.clock + millis
  match rehearsal.deadline with
  | none => (none, { rehearsal with clock := later })
  | some (moment, reason) =>
    if moment ≤ later then
      (some reason, { rehearsal with clock := max rehearsal.clock moment, deadline := none })
    else (none, { rehearsal with clock := later })

/-- The world of a rehearsal. -/
def environment : Environment Rehearsal := ⟨answer, pass⟩

/-- The rehearsal at the start of a step, with the moment at which the step is cancelled. -/
def restart (rehearsal : Rehearsal) (deadline : Option (Nat × String)) : Rehearsal :=
  { rehearsal with clock := 0, deadline }

end Rehearsal

/-- A client of a server at the root of its host. -/
def sampleClient : Client :=
  ⟨⟨"http", some ⟨"", "", "nexus.test", none⟩, false, .rooted [""], none, none⟩, {},
    Client.farHorizon⟩

/-! ## Without a network -/

/-- The fault of a request to a server that no route leads to. -/
def unreachable (request : Request) : TransportFault :=
  request.unanswered
    ["client error (Connect)", "tcp connect error", "Network is unreachable (os error 101)"]

/-- A world in which no request reaches a server. -/
def offline : Environment Unit :=
  ⟨fun _ request => (.error (unreachable request), none, ()), fun _ _ => (none, ())⟩

end ReleaseStaging
