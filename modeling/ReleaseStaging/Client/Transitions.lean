import ReleaseStaging.Activity.Outcome
import ReleaseStaging.Client.Detection
import ReleaseStaging.Client.Waiting
import ReleaseStaging.PromoteRequest

/-!
# Closing, dropping and releasing a stage

A transition is requested by one document and accepted with status 201. A server that works in the
background is then waited for, and how a close ended is read from the activity log.
-/

namespace ReleaseStaging

namespace Client

/-- The activity log of a stage. -/
def activityLog (client : Client) (stage : Stage) : Operation (List Activity) := do
  let endpoint ← repositoryEndpoint client.base stage (some "activity")
  let report ← fetchReport endpoint
  Activity.ofReport report

/-- Requests a transition; only status 201 accepts it. -/
def request (client : Client) (action : Action) (stage : Stage) (description : Option String) :
    Operation Unit := do
  let endpoint ← action.endpoint client.base stage
  let response ← Operation.send (.post endpoint (promoteRequest stage.stageId description))
  unless response.status = 201 do
    throw (.actionRejected action stage response.status)

/-- Fails unless the activity log of a stage records that its last close succeeded. -/
def confirmClosed (client : Client) (stage : Stage) : Operation Unit := do
  match CloseOutcome.ofLog (← client.activityLog stage) with
  | .closed => Operation.note (.closed stage)
  | .failed failure => throw (.actionFailed (failure.message stage))
  | .unrecorded => throw (.unrecordedOutcome .close stage)

/-- Closes a stage; a close in the background is waited for and confirmed. -/
def closeStage (client : Client) (stage : Stage) (description : String) : Operation Unit := do
  let inBackground ← client.isAsync
  Operation.note (.closing stage)
  client.request .close stage (some description)
  if inBackground then
    client.waitForTransition stage
    client.confirmClosed stage

/-- Requests that a stage be dropped, and does not wait for it. -/
def dropStage (client : Client) (stage : Stage) : Operation Unit := do
  Operation.note (.dropping stage)
  client.request .drop stage none

/-- Releases a stage; a release in the background is waited for. -/
def releaseStage (client : Client) (stage : Stage) (description : String) : Operation Unit := do
  let inBackground ← client.isAsync
  Operation.note (.releasing stage)
  client.request .release stage (some description)
  if inBackground then
    client.waitForTransition stage
  Operation.note (.released stage)

end Client

end ReleaseStaging
