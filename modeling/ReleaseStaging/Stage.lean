/-!
# Staging repositories

A release is gathered in a staging repository. The server names it by the staging profile it
belongs to and by its own id; both together identify one staging cycle.
-/

namespace ReleaseStaging

/-- The identity of one staging repository. -/
structure Stage where
  /-- The staging profile. -/
  profileId : String
  /-- The repository within the profile. -/
  stageId : String
  deriving DecidableEq, Repr

namespace Stage

/-- The text by which messages name a stage. -/
def display (stage : Stage) : String :=
  stage.stageId ++ " (profile " ++ stage.profileId ++ ")"

end Stage

end ReleaseStaging
