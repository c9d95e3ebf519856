import ReleaseStaging.Client.Basic
import ReleaseStaging.Text.Number

/-!
# Permissions

The workflow needs five permissions. The status document lists the permissions of the user, each
with a number that is not zero if it is granted.
-/

namespace ReleaseStaging

/-- The permissions that the workflow needs, in the order in which they are checked. -/
def requiredPermissions : List String :=
  ["nexus:stagingprofiles", "nexus:stagingfinish", "nexus:stagingprofilerepos",
    "nexus:stagingpromote", "nexus:stagingdrop"]

/-- The query for the number of a permission. -/
def permissionQuery (permission : String) : Query :=
  .ofPath ⟨true,
    ["status", "data", "clientPermissions", "permissions"].map Query.Step.toChild ++
      [⟨.child, some "permission", [.childEquals "id" permission]⟩, .toChild "value"]⟩

/-- Whether a status document grants a permission. -/
def isGranted (report : Report) (permission : String) : Except Failure Bool :=
  let query := permissionQuery permission
  match report.text? report.root query with
  | none => .error (.permissionNotReported report.source permission)
  | some value =>
    match Text.signedWithin? (Int64.size / 2) value.toList with
    | none => .error (report.invalid query value)
    | some number => .ok (number != 0)

/-- Fails unless a status document grants a permission. -/
def requirePermission (report : Report) (permission : String) : Operation Unit := do
  let granted ← isGranted report permission
  unless granted do
    Operation.note (.missingPermission permission)
    throw (.insufficientPrivileges permission)

/-- Fails unless the user has every permission that the workflow needs; the first one that is not
granted decides. -/
def Client.checkAuthentication (client : Client) : Operation Unit := do
  let report ← fetchReport (statusEndpoint client.base)
  requiredPermissions.forM (requirePermission report)

end ReleaseStaging
