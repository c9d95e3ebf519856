import ReleaseStaging.Run

/-!
# Cancellations in a run

A token records every cancellation and nothing else: after a run it is cancelled exactly if it was
before or if someone cancelled during the run. So the token at a point of a run tells whether a
cancellation lies before that point.
-/

namespace ReleaseStaging

/-- Whether an event is a cancellation. -/
def Event.isCancellation : Event → Bool
  | .cancelled _ => true
  | _ => false

variable {σ α : Type}

namespace World

/-- Whether the token of a world is cancelled. -/
def isCancelled (world : World σ) : Bool := world.token.isCancelled

/-- A world is cancelled by a reason, and each cancellation that counts is an event. -/
theorem isCancelled_cancel (world : World σ) (reason : Option String) :
    (world.cancel reason).isCancelled =
      (world.isCancelled || (world.cancelEvents reason).any Event.isCancellation) := by
  cases reason with
  | none => simp [cancel, cancelEvents]
  | some reason =>
    have hcancelled : (world.cancel (some reason)).isCancelled = true :=
      world.token.isCancelled_cancel reason
    rw [hcancelled]
    by_cases h : world.token.isCancelled = true
    · simp [isCancelled, h]
    · simp [cancelEvents, h, Event.isCancellation]

end World

/-- What an effect does to the token is among its events. -/
theorem Effect.isCancelled_handle (environment : Environment σ) (effect : Effect α)
    (world : World σ) :
    (effect.handle environment world).2.2.isCancelled =
      (world.isCancelled ||
        (effect.handle environment world).2.1.any Event.isCancellation) := by
  cases effect with
  | send request => exact world.isCancelled_cancel (environment.answer world.state request).2.1
  | pause millis =>
    cases h : world.token.reason with
    | some reason => simp [handle, h]
    | none =>
      simp only [handle, h]
      exact world.isCancelled_cancel (environment.pass world.state millis).1
  | remember capability => simp [handle, World.isCancelled]
  | _ => simp [handle, Event.isCancellation]

/-- After a run the token is cancelled exactly if it was before or if someone cancelled. -/
theorem Program.isCancelled_run (environment : Environment σ) (program : Program α)
    (world : World σ) :
    (program.run environment world).world.isCancelled =
      (world.isCancelled ||
        (program.run environment world).trace.any Event.isCancellation) := by
  induction program generalizing world with
  | done result | unfinished => simp [run]
  | act effect next ih =>
    simp only [run, ih, effect.isCancelled_handle environment world, List.any_append,
      Bool.or_assoc]

/-- In an environment nobody cancels. -/
structure Environment.IsCalm (environment : Environment σ) : Prop where
  /-- Not while a request is on its way. -/
  answer : ∀ state request, (environment.answer state request).2.1 = none
  /-- Not while time passes. -/
  pass : ∀ state millis, (environment.pass state millis).1 = none

/-- Where nobody cancels, a run leaves the token as it is. -/
theorem Program.isCancelled_run_of_isCalm {environment : Environment σ} (h : environment.IsCalm)
    (program : Program α) (world : World σ) :
    (program.run environment world).world.isCancelled = world.isCancelled := by
  induction program generalizing world with
  | done result | unfinished => rfl
  | act effect next ih =>
    have hhandle : (effect.handle environment world).2.2.isCancelled = world.isCancelled := by
      cases effect with
      | send request =>
        simp [Effect.handle, h.answer, World.cancel, World.isCancelled]
      | pause millis =>
        cases hreason : world.token.reason <;>
          simp [Effect.handle, hreason, h.pass, World.cancel, World.isCancelled]
      | _ => rfl
    simp only [run, ih, hhandle]

end ReleaseStaging
