import ReleaseStaging.Activity
import ReleaseStaging.Client.Detection
import ReleaseStaging.Client.Permissions
import ReleaseStaging.Client.Transitions
import ReleaseStaging.Command.Target

/-!
# Commands that ask

Commands that show what the server knows and change nothing on it.
-/

namespace ReleaseStaging

namespace Command

/-- Checks the permissions of the user and shows what the server is able to do. -/
def status (client : Client) (asJson : Bool) : Command Unit := do
  client.checkAuthentication
  let capability ← client.capability
  let actions := if capability.asyncActions then "asynchronous" else "synchronous"
  emit asJson
    (.ofMembers [("authenticated", .bool true), ("capability", capability.toJson),
      ("url", .ofText client.base.text)])
    s!"Server:   {client.base.text}\nVersion:  {capability.version}\nActions:  {actions}"

/-- Shows the version of the server. -/
def version (client : Client) (asJson : Bool) : Command Unit := do
  let version ← client.serverVersion
  emit asJson (.ofMembers [("version", .ofText version)]) version

/-- Lists the open stages. -/
def list (client : Client) (asJson : Bool) : Command Unit := do
  let stages ← client.openStages
  let lines := stages.map fun stage => stage.stageId ++ "\t" ++ stage.profileId
  emit asJson (.array (stages.map Stage.toJson))
    (if stages.isEmpty then "No open stages" else "\n".intercalate lines)

/-- Shows the open stage that holds an artifact. -/
def find (client : Client) (asJson : Bool) (coordinates : Coordinates) : Command Unit := do
  let found ← client.findOpenStage coordinates
  emit asJson (.ofMembers [("stage", (found.map Stage.toJson).getD .null)])
    ((found.map Stage.display).getD "No matching open stage")

end Command

/-! ## The activity log -/

/-- The document of a time that may be missing. -/
def timeJson (time : Option Calendar.Instant) : Json :=
  .ofText? (time.map Calendar.Instant.text)

/-- The document of an event. -/
def ActivityEvent.toJson (event : ActivityEvent) : Json :=
  .ofMembers
    [("name", .ofText event.name),
      ("properties",
        .array (event.properties.map fun property =>
          .array [.ofText property.1, .ofText property.2])),
      ("timestamp", timeJson event.timestamp)]

/-- The document of an activity. -/
def Activity.toJson (activity : Activity) : Json :=
  .ofMembers
    [("events", .array (activity.events.map ActivityEvent.toJson)),
      ("name", .ofText activity.name), ("started", timeJson activity.started),
      ("stopped", timeJson activity.stopped)]

/-- The lines of an event and its properties. -/
def ActivityEvent.lines (event : ActivityEvent) : List String :=
  s!"  {event.name}" :: event.properties.map fun property =>
    "    " ++ property.1 ++ ": " ++ property.2

/-- The lines of an activity and its events. -/
def Activity.lines (activity : Activity) : List String :=
  activity.name :: activity.events.flatMap ActivityEvent.lines

namespace Command

/-- Shows the activity log of a stage. -/
def activity (client : Client) (asJson : Bool) (target : StageTarget) : Command Unit := do
  let stage ← target.resolve client
  let activities ← client.activityLog stage
  emit asJson
    (.ofMembers [("activities", .array (activities.map Activity.toJson)),
      ("stage", stage.toJson)])
    ("\n".intercalate
      (("Activity of " ++ stage.display) :: activities.flatMap Activity.lines))

end Command

end ReleaseStaging
