import ReleaseStaging.Text.Quoted

/-!
# How to wait

While a transition runs in the background, the repository is asked again and again whether it is
done: with a pause between two polls, and with a limit on their number if one is wanted.
-/

namespace ReleaseStaging

/-- The pauses and the limit of polling. -/
structure PollSettings where
  /-- The pause between two polls in milliseconds. -/
  intervalMillis : UInt64 := 500
  /-- The largest number of polls; without it polling ends only with the transition. -/
  maxAttempts : Option UInt32 := none
  deriving DecidableEq, Repr, Inhabited

namespace PollSettings

/-- Whether the limit is reached after a number of polls. -/
def isExhausted (settings : PollSettings) (attempts : UInt32) : Bool :=
  settings.maxAttempts.any (· ≤ attempts)

/-- The settings as developers see them. -/
def shown (settings : PollSettings) : String :=
  Text.shownRecord "PollConfig"
    [("interval_ms", toString settings.intervalMillis),
      ("max_attempts", Text.shownOption toString settings.maxAttempts)] false

end PollSettings

end ReleaseStaging
