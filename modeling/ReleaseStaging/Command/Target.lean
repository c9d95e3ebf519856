import ReleaseStaging.Client.Discovery
import ReleaseStaging.Command.Basic

/-!
# Which stage a command works on

A stage is named by its id, with its profile if that is known, or by an artifact that it holds.
-/

namespace ReleaseStaging

/-- What a user says about the stage that is meant. -/
structure StageTarget where
  /-- The id of the stage. -/
  stage : Option String := none
  /-- The profile of the stage. -/
  profile : Option String := none
  /-- The group of an artifact in the stage. -/
  group : Option String := none
  /-- The artifact. -/
  artifact : Option String := none
  /-- The version of the artifact. -/
  version : Option String := none
  deriving DecidableEq, Repr, Inhabited

/-- The stage that a target means. With a profile the server is not asked; an id alone means the
first open stage with that id; an artifact means the first open stage that holds it. -/
def StageTarget.resolve (client : Client) (target : StageTarget) : Command Stage :=
  match target.stage, target.profile, target.group, target.artifact with
  | some stageId, some profileId, _, _ => return ⟨profileId, stageId⟩
  | some stageId, none, _, _ => do
    let stages ← client.openStages
    Command.require (stages.find? fun stage => stage.stageId == stageId)
      s!"stage {stageId} is not open; pass --profile to address it"
  | none, _, some group, some artifact => do
    let found ← client.findOpenStage ⟨group, artifact, target.version⟩
    Command.require found s!"no open stage holds {group}:{artifact}"
  | none, _, _, _ =>
    throw (.ofText "select a stage with --stage or with --group and --artifact")

end ReleaseStaging
