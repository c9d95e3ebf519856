import ReleaseStaging.Activity

/-!
# How a close ended

Closing a repository runs the validation rules of the server. The last activity of the log that is
a close tells how it ended: an event records success, another one failure, and one event for each
rule that failed says why.
-/

namespace ReleaseStaging

/-- The event of a close that succeeded. -/
def repositoryClosed : String := "repositoryClosed"

/-- The event of a close that failed. -/
def repositoryCloseFailed : String := "repositoryCloseFailed"

/-- The event of a rule that failed. -/
def ruleFailed : String := "ruleFailed"

/-- Why a close failed. -/
structure CloseFailure where
  /-- The cause that the failure event names. -/
  cause : Option String
  /-- The messages of the rules that failed, in order. -/
  failedRules : List String
  deriving DecidableEq, Repr

/-- The message of a failed close: a header, and each reason on a line of its own. -/
def CloseFailure.message (failure : CloseFailure) (stage : Stage) : String :=
  let reasons := failure.cause.toList ++ failure.failedRules
  s!"Closing stage {stage.stageId} failed." ++ String.join (reasons.map fun line => "\n\t" ++ line)

/-- How a close ended. -/
inductive CloseOutcome where
  /-- The repository was closed. -/
  | closed
  /-- The close failed. -/
  | failed (failure : CloseFailure)
  /-- The log records neither, or no close at all. -/
  | unrecorded
  deriving DecidableEq, Repr

namespace CloseOutcome

/-- How the action ended that an activity records, if it is a close. -/
def ofActivity (activity : Activity) : CloseOutcome :=
  if (activity.event? repositoryClosed).isSome then .closed
  else match activity.event? repositoryCloseFailed with
    | none => .unrecorded
    | some event =>
      .failed ⟨event.property? "cause",
        (activity.eventsNamed ruleFailed).filterMap fun rule => rule.property? "failureMessage"⟩

/-- How the last close of a log ended. -/
def ofLog (activities : List Activity) : CloseOutcome :=
  match activities.reverse.find? fun activity => activity.name == "close" with
  | none => .unrecorded
  | some activity => ofActivity activity

end CloseOutcome

end ReleaseStaging
