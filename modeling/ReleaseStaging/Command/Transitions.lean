import ReleaseStaging.Client.Transitions
import ReleaseStaging.Command.Target

/-!
# Commands that change a stage

A close is tried again as long as the failure lies in the transport, with a pause between two
tries. When it has failed for good, the stage may be dropped, but never after an interruption.
-/

namespace ReleaseStaging

/-- How often a close is tried. -/
structure CloseRetry where
  /-- The number of tries; at least one is made. -/
  attempts : UInt32 := 5
  /-- The pause between two tries in milliseconds. -/
  delayMillis : Nat := 15000
  /-- Whether the stage is dropped once every try has failed. -/
  dropOnFailure : Bool := false
  deriving DecidableEq, Repr, Inhabited

/-- The largest number of tries. -/
def CloseRetry.tries (retry : CloseRetry) : UInt32 := max retry.attempts 1

/-- Below a limit, counting one on does not wrap around. -/
theorem toNat_add_one_of_lt {attempt limit : UInt32} (h : attempt < limit) :
    (attempt + 1).toNat = attempt.toNat + 1 := by
  have hlt : attempt.toNat < limit.toNat := UInt32.lt_iff_toNat_lt.mp h
  have hlimit := UInt32.toNat_lt limit
  rw [UInt32.toNat_add, UInt32.toNat_one, Nat.mod_eq_of_lt (by omega)]

/-- Whether another try can help. -/
def Failure.isRetryable (failure : Failure) : Bool :=
  failure.origin == .transport

/-- The document of a transition that was carried out. -/
def transitionJson (action : Action) (stage : Stage) : Json :=
  .ofMembers [("action", .ofText action.word), ("stage", stage.toJson)]

namespace Command

/-- What follows a close that has failed for good: a drop if that is wanted, unless the close was
interrupted. The command fails in any case. -/
def abandonClose {α : Type} (client : Client) (stage : Stage) (retry : CloseRetry)
    (failure : Failure) : Command α := do
  if retry.dropOnFailure then
    if failure.origin = .interrupted then
      perform (.note (.keepingInterrupted stage))
    else
      perform (.note (.droppingFailed stage failure))
      within s!"dropping {stage.display} after failed close" (client.dropStage stage)
  within s!"closing {stage.display}" (throw (.ofFailure failure))

/-- What comes of one try to close a stage. -/
def attemptClose (client : Client) (stage : Stage) (description : String) :
    Command (Except Failure Unit) :=
  ExceptT.lift (ExceptT.run (client.closeStage stage description))

/-- Waits before another try to close a stage. -/
def awaitRetry (stage : Stage) (retry : CloseRetry) : Command Unit := do
  if (← perform (.pause retry.delayMillis)).isSome then
    throw (.ofText s!"interrupted while retrying close of {stage.display}")

/-- Tries to close a stage, after the tries before the one with the given number. The result is the
number of the try that succeeded. -/
def tryClose (client : Client) (stage : Stage) (description : String) (retry : CloseRetry)
    (attempt : UInt32) : Command UInt32 := do
  match ← attemptClose client stage description with
  | .ok () => return attempt
  | .error failure =>
    if attempt < retry.tries ∧ failure.isRetryable then
      perform (.note (.retryingClose stage attempt.toNat retry.tries.toNat failure))
      awaitRetry stage retry
      tryClose client stage description retry (attempt + 1)
    else abandonClose client stage retry failure
termination_by retry.tries.toNat - attempt.toNat
decreasing_by
  rename_i h
  have hlt := UInt32.lt_iff_toNat_lt.mp h.1
  rw [toNat_add_one_of_lt h.1]
  omega

/-- Closes a stage. -/
def close (client : Client) (asJson : Bool) (target : StageTarget) (description : String)
    (retry : CloseRetry) : Command Unit := do
  let stage ← target.resolve client
  let attempt ← tryClose client stage description retry 1
  perform (.note (.closeComplete stage attempt.toNat))
  emit asJson (transitionJson .close stage) ("Closed " ++ stage.display)

/-- Drops a stage. -/
def drop (client : Client) (asJson : Bool) (target : StageTarget) : Command Unit := do
  let stage ← target.resolve client
  client.dropStage stage
  emit asJson (transitionJson .drop stage) ("Requested drop of " ++ stage.display)

/-- Releases a stage. -/
def release (client : Client) (asJson : Bool) (target : StageTarget) (description : String) :
    Command Unit := do
  let stage ← target.resolve client
  client.releaseStage stage description
  emit asJson (transitionJson .release stage) ("Released " ++ stage.display)

end Command

end ReleaseStaging
