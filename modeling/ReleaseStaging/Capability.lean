import ReleaseStaging.Failure
import ReleaseStaging.Text.Blank
import ReleaseStaging.Text.Fields
import ReleaseStaging.Text.Number

/-!
# What the server can do

From version 2.4 on the server runs transitions in the background: it accepts the request at once
and reports the repository as transitioning until the work is done. Older servers answer when the
work is done. The version that the server reports decides.
-/

namespace ReleaseStaging

/-- Whether a server of this version runs transitions in the background; the version must start
with a number, and a second component that does not counts as zero. -/
def isAsyncVersion (version : String) : Except Failure Bool :=
  match Text.fields '.' (Text.trim version.toList) with
  | [] => .error (.unrecognisedVersion version)
  | major :: rest =>
    match Text.leadingNumber? major with
    | none => .error (.unrecognisedVersion version)
    | some major =>
      let minor := (rest.head?.bind Text.leadingNumber?).getD 0
      .ok (major > 2 || (major == 2 && minor ≥ 4))

/-- What a server is able to do. -/
structure Capability where
  /-- The version as the server reports it. -/
  version : String
  /-- Whether close and release run in the background. -/
  asyncActions : Bool
  deriving DecidableEq, Repr

namespace Capability

/-- The capability of a server of the given version. -/
def ofVersion (version : String) : Except Failure Capability := do
  let asyncActions ← isAsyncVersion version
  return ⟨version, asyncActions⟩

end Capability

end ReleaseStaging
