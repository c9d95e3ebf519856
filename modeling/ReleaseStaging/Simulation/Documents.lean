import ReleaseStaging.Client.Permissions

/-!
# Documents of a scripted server

Documents in the shape in which the server writes them. Texts are put in as they are, so they must
not hold anything that means something in a document.
-/

namespace ReleaseStaging.Simulation

/-- A text between the tags of an element. -/
def tagged (name content : String) : String :=
  "<" ++ name ++ ">" ++ content ++ "</" ++ name ++ ">"

/-- The status of the server: its version, and permissions with their numbers. -/
def statusDocument (version : String) (permissions : List (String × Nat)) : String :=
  let listed := String.join <| permissions.map fun permission =>
    tagged "permission" (tagged "id" permission.1 ++ tagged "value" (toString permission.2))
  tagged "status" <| tagged "data" <|
    tagged "appName" "Nexus Repository Manager" ++ tagged "version" version ++
      tagged "clientPermissions" (tagged "loggedIn" "true" ++ tagged "permissions" listed)

/-- The status of a server that grants every permission that the workflow needs. -/
def permissiveStatusDocument (version : String) : String :=
  statusDocument version (requiredPermissions.map fun permission => (permission, 15))

/-- A staging repository in a listing. -/
structure ListingEntry where
  /-- The profile. -/
  profileId : String
  /-- The repository. -/
  repositoryId : String
  /-- Its state. -/
  state : String
  deriving DecidableEq, Repr

/-- The listing of staging repositories. -/
def listingDocument (entries : List ListingEntry) : String :=
  tagged "stagingRepositories" <| tagged "data" <| String.join <| entries.map fun entry =>
    tagged "stagingProfileRepository"
      (tagged "profileId" entry.profileId ++ tagged "profileName" "release" ++
        tagged "repositoryId" entry.repositoryId ++ tagged "type" entry.state)

/-- A staging repository that is transitioning, or not. -/
def repositoryDocument (repositoryId : String) (transitioning : Bool) : String :=
  tagged "stagingProfileRepository"
    (tagged "repositoryId" repositoryId ++ tagged "type" "open" ++
      tagged "transitioning" (toString transitioning))

/-! ## Activity logs -/

/-- An event with its properties. -/
structure LoggedEvent where
  /-- The name of the event. -/
  name : String
  /-- Names and values. -/
  properties : List (String × String)
  deriving DecidableEq, Repr

/-- An activity with its events. -/
structure LoggedActivity where
  /-- The name of the activity. -/
  name : String
  /-- The events, in order. -/
  events : List LoggedEvent
  deriving DecidableEq, Repr

/-- An activity log. -/
structure ActivityLog where
  /-- The activities, in order. -/
  activities : List LoggedActivity
  deriving DecidableEq, Repr, Inhabited

namespace ActivityLog

/-- The log without activities. -/
def empty : ActivityLog := ⟨[]⟩

/-- The log with one more activity. -/
def activity (log : ActivityLog) (name : String) : ActivityLog :=
  ⟨log.activities ++ [⟨name, []⟩]⟩

/-- The activities with one more event in the last of them. -/
def addToLast (event : LoggedEvent) : List LoggedActivity → List LoggedActivity
  | [] => []
  | [last] => [{ last with events := last.events ++ [event] }]
  | first :: rest => first :: addToLast event rest

/-- The log with one more event in its last activity; without an activity the event is lost. -/
def event (log : ActivityLog) (name : String) (properties : List (String × String)) :
    ActivityLog :=
  ⟨addToLast ⟨name, properties⟩ log.activities⟩

/-- The element of an event. -/
def eventElement (event : LoggedEvent) : String :=
  let properties := String.join <| event.properties.map fun property =>
    tagged "stagingProperty" (tagged "name" property.1 ++ tagged "value" property.2)
  tagged "stagingActivityEvent"
    (tagged "timestamp" "2013-02-13T13:30:50.134Z" ++ tagged "name" event.name ++
      tagged "severity" "0" ++ tagged "properties" properties)

/-- The element of an activity. -/
def activityElement (activity : LoggedActivity) : String :=
  tagged "stagingActivity"
    (tagged "name" activity.name ++
      tagged "events" (String.join (activity.events.map eventElement)) ++
      tagged "started" "2013-02-13T13:30:49.725Z")

/-- The document of a log. -/
def document (log : ActivityLog) : String :=
  tagged "list" (String.join (log.activities.map activityElement))

end ActivityLog

end ReleaseStaging.Simulation
