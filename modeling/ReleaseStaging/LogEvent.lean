import ReleaseStaging.Capability
import ReleaseStaging.Endpoint
import ReleaseStaging.Text.Quoted

/-!
# What is worth logging

The steps of the workflow that a user may want to follow, and what went wrong without ending it.
-/

namespace ReleaseStaging

/-- How much a log event matters. -/
inductive LogLevel where
  /-- The workflow goes on as expected. -/
  | info
  /-- Something is not as it should be. -/
  | warn
  deriving DecidableEq, Repr

/-- The word of a level. -/
def LogLevel.word : LogLevel → String
  | info => "INFO"
  | warn => "WARN"

/-- The value of a field of a log event. -/
inductive LogValue where
  /-- A text. -/
  | text (value : String)
  /-- A number. -/
  | number (value : Nat)
  /-- A truth value. -/
  | flag (value : Bool)
  deriving DecidableEq, Repr

/-- A step of the workflow that is logged. -/
inductive LogEvent where
  /-- The user lacks a permission. -/
  | missingPermission (permission : String)
  /-- The version of the server is known. -/
  | detectedCapability (capability : Capability)
  /-- The folder of an artifact was neither found nor absent. -/
  | unexpectedProbe (stage : Stage) (url : String) (status : Nat)
  /-- More than one open stage holds an artifact. -/
  | severalMatches (stage : Stage) (others : List Stage) (coordinates : Coordinates)
  /-- A close starts. -/
  | closing (stage : Stage)
  /-- A close in the background succeeded. -/
  | closed (stage : Stage)
  /-- A drop starts. -/
  | dropping (stage : Stage)
  /-- A release starts. -/
  | releasing (stage : Stage)
  /-- A release succeeded. -/
  | released (stage : Stage)
  /-- A close failed and is tried again. -/
  | retryingClose (stage : Stage) (attempt attempts : Nat) (failure : Failure)
  /-- A close was interrupted, so the stage is kept. -/
  | keepingInterrupted (stage : Stage)
  /-- A close failed for good and the stage is dropped. -/
  | droppingFailed (stage : Stage) (failure : Failure)
  /-- A close succeeded in the end. -/
  | closeComplete (stage : Stage) (attempt : Nat)
  deriving DecidableEq, Repr

namespace LogEvent

/-- How much an event matters. -/
def level : LogEvent → LogLevel
  | missingPermission .. | unexpectedProbe .. | severalMatches .. | retryingClose ..
  | keepingInterrupted .. | droppingFailed .. => .warn
  | detectedCapability .. | closing .. | closed .. | dropping .. | releasing .. | released ..
  | closeComplete .. => .info

/-- The message of an event. -/
def message : LogEvent → String
  | missingPermission .. => "Missing staging permission"
  | detectedCapability .. => "Detected server capability"
  | unexpectedProbe .. => "Unexpected status probing stage contents"
  | severalMatches .. => "Multiple open stages match, using the first"
  | closing .. => "Closing stage"
  | closed .. => "Stage closed"
  | dropping .. => "Dropping stage"
  | releasing .. => "Releasing stage"
  | released .. => "Stage released"
  | retryingClose .. => "Close failed, retrying"
  | keepingInterrupted .. => "Close interrupted, not dropping stage"
  | droppingFailed .. => "Close failed, dropping stage"
  | closeComplete .. => "Close complete"

/-- The field that names a stage. -/
def stageField (stage : Stage) : String × LogValue :=
  ("stage", .text stage.display)

/-- The fields of an event; a version that is not given has none. -/
def fields : LogEvent → List (String × LogValue)
  | missingPermission permission => [("permission", .text permission)]
  | detectedCapability capability =>
    [("version", .text capability.version), ("async_actions", .flag capability.asyncActions)]
  | unexpectedProbe stage url status =>
    [stageField stage, ("url", .text url), ("status", .number status)]
  | severalMatches stage others coordinates =>
    [stageField stage,
      ("others", .text (Text.shownList Text.quoted (others.map Stage.display))),
      ("group", .text coordinates.group), ("artifact", .text coordinates.artifact)] ++
      coordinates.version.toList.map fun version => ("version", .text version)
  | closing stage | closed stage | dropping stage | releasing stage | released stage
  | keepingInterrupted stage => [stageField stage]
  | retryingClose stage attempt attempts failure =>
    [stageField stage, ("attempt", .number attempt), ("attempts", .number attempts),
      ("error", .text failure.message)]
  | droppingFailed stage failure => [stageField stage, ("error", .text failure.message)]
  | closeComplete stage attempt => [stageField stage, ("attempt", .number attempt)]

end LogEvent

end ReleaseStaging
