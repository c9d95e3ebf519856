import ReleaseStaging.Failure
import ReleaseStaging.Text.Blank
import ReleaseStaging.Url.Reader

/-!
# Endpoints of the server

Every request goes below the base address of the server. Fixed paths are resolved against it;
paths that hold identifiers are put below it segment by segment, so that no identifier can name
anything but one segment.
-/

namespace ReleaseStaging

/-- The base address that a user gave: an address of the web, without query and fragment, whose
path ends with a slash. -/
def baseUrl (given : String) : Except Failure Url :=
  match Url.ofText (Text.trimmed given) with
  | .error fault => .error (.invalidBaseUrl given fault.message)
  | .ok url =>
    if url.scheme = "http" || url.scheme = "https" then
      let segments := url.segments?.getD []
      let ended := if segments.getLast? = some "" then segments else segments ++ [""]
      .ok (url.withoutQuery.withSegments ended)
    else .error (.invalidBaseUrl given s!"unsupported scheme '{url.scheme}'")

/-- An identifier that would not be one segment of a path. -/
def isUnusable (segment : String) : Bool :=
  segment.isEmpty || segment = "." || segment = ".."

/-- The address of segments put below a base; `isFolder` ends it with a slash. -/
def below (base : Url) (segments : List String) (isFolder : Bool) : Except Failure Url :=
  match segments.find? isUnusable, base.segments? with
  | some segment, _ => .error (.invalidSegment segment)
  | none, none =>
    .error (.malformedEndpoint (base.text ++ "/".intercalate segments)
      "relative URL with a cannot-be-a-base base")
  | none, some above =>
    let special := Url.isSpecial base.scheme
    let path := segments.foldl (Url.pushSegment special) (Url.popEmpty above)
    .ok (base.withSegments (if isFolder then Url.pushSegment special path "" else path))

/-- The endpoint that requests a transition of a stage. -/
def Action.endpoint (action : Action) (base : Url) (stage : Stage) : Except Failure Url :=
  below base (action.segments stage) false

/-- The endpoint of the status of the server. -/
def statusEndpoint (base : Url) : Url :=
  base.join ["service", "local", "status"]

/-- The endpoint that lists the staging repositories. -/
def listingEndpoint (base : Url) : Url :=
  base.join ["service", "local", "staging", "profile_repositories"]

/-- The endpoint of a staging repository, or of something it holds. -/
def repositoryEndpoint (base : Url) (stage : Stage) (child : Option String) :
    Except Failure Url :=
  below base (["service", "local", "staging", "repository", stage.stageId] ++ child.toList) false

/-- Coordinates of an artifact; without a version any version is meant. -/
structure Coordinates where
  /-- The group, its parts joined by dots. -/
  group : String
  /-- The artifact within the group. -/
  artifact : String
  /-- The version. -/
  version : Option String
  deriving DecidableEq, Repr

/-- The folder in which a staging repository would hold an artifact. -/
def contentEndpoint (base : Url) (stage : Stage) (coordinates : Coordinates) :
    Except Failure Url :=
  below base
    (["service", "local", "repositories", stage.stageId, "content"] ++
      Text.fieldsOf '.' coordinates.group ++ [coordinates.artifact] ++ coordinates.version.toList)
    true

end ReleaseStaging
