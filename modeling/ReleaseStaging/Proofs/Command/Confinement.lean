import ReleaseStaging.Command.Transitions
import ReleaseStaging.Proofs.Run.Confinement

/-!
# What the steps of a close may do

Main statement: however often a close is tried, and however it ends, it does nothing but what one
close may do and, if that is wanted, one drop.
-/

namespace ReleaseStaging

variable {allowance : Allowance} {client : Client} {stage : Stage}

namespace Command

/-- A close that has failed for good is followed by a drop at most. -/
theorem isConfined_abandonClose {α : Type} {retry : CloseRetry}
    (hdrop : retry.dropOnFailure = true → IsConfined allowance (client.dropStage stage))
    (failure : Failure) :
    IsConfined allowance (abandonClose client stage retry failure : Command α) := by
  have hfailed : IsConfined allowance
      (within s!"closing {stage.display}" (throw (.ofFailure failure)) : Command α) :=
    isConfined_within _ (isConfined_throw _)
  rw [abandonClose]
  by_cases hwanted : retry.dropOnFailure = true
  · simp only [if_pos hwanted]
    by_cases hinterrupted : failure.origin = .interrupted
    · simp only [if_pos hinterrupted]
      exact (isConfined_perform_note _).bind fun _ => hfailed
    · simp only [if_neg hinterrupted]
      apply (isConfined_perform_note _).bind
      intro _
      exact (isConfined_within _ (isConfined_ofOperation (hdrop hwanted))).bind fun _ => hfailed
  · simp only [if_neg hwanted]
    exact hfailed

/-- Waiting before another try may always be done. -/
theorem isConfined_awaitRetry (stage : Stage) (retry : CloseRetry) :
    IsConfined allowance (awaitRetry stage retry) := by
  apply (isConfined_perform_pause _).bind
  intro reason
  cases reason with
  | some reason => exact isConfined_throw _
  | none => exact isConfined_pure ()

/-- However often a close is tried, and however it ends, it is confined if one close is, and a drop
where that is wanted. -/
theorem isConfined_tryClose {description : String} {retry : CloseRetry}
    (hclose : IsConfined allowance (client.closeStage stage description))
    (hdrop : retry.dropOnFailure = true → IsConfined allowance (client.dropStage stage))
    (attempt : UInt32) :
    IsConfined allowance (tryClose client stage description retry attempt) := by
  induction attempt using tryClose.induct retry with
  | case1 attempt ih =>
    have hattempt : IsConfined allowance (attemptClose client stage description) :=
      hclose.of_view fun _ => trivial
    rw [tryClose]
    apply hattempt.bind
    rintro (failure | ⟨⟨⟩⟩)
    · by_cases hretry : attempt < retry.tries ∧ failure.isRetryable = true
      · simp only [if_pos hretry]
        apply (isConfined_perform_note _).bind
        intro _
        exact (isConfined_awaitRetry stage retry).bind fun _ => ih failure hretry
      · simp only [if_neg hretry]
        exact isConfined_abandonClose hdrop failure
    · exact isConfined_pure attempt

end Command

end ReleaseStaging
