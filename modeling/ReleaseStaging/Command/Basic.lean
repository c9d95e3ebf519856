import ReleaseStaging.Client.Basic
import ReleaseStaging.Json.Value

/-!
# Commands

A command runs operations of a client and prints one result, for people or as JSON. When it fails,
it says what it was doing, and the failure of the operation is the cause.
-/

namespace ReleaseStaging

/-- Why a command failed: what it was doing, the outermost first, and the failure of an operation,
if there was one. -/
structure CommandFailure where
  /-- What the command was doing. -/
  context : List String
  /-- The failure of an operation. -/
  cause : Option Failure
  deriving DecidableEq, Repr

namespace CommandFailure

/-- The failure that a text alone describes. -/
def ofText (text : String) : CommandFailure := ⟨[text], none⟩

/-- The failure of an operation. -/
def ofFailure (failure : Failure) : CommandFailure := ⟨[], some failure⟩

/-- The texts of a failure, the outermost first; causes below an operation are left out. -/
def chain (failure : CommandFailure) : List String :=
  failure.context ++ (failure.cause.map Failure.message).toList

/-- The line by which a failure is reported, with all its causes. -/
def report (failure : CommandFailure) : String :=
  "Error: " ++ ": ".intercalate (failure.context ++ (failure.cause.map Failure.chain).getD [])

/-- A failure that happened while doing something. -/
def within (failure : CommandFailure) (doing : String) : CommandFailure :=
  { failure with context := doing :: failure.context }

end CommandFailure

/-- A program that is a command. -/
abbrev Command (α : Type) : Type 1 :=
  ExceptT CommandFailure Program α

namespace Command

variable {α : Type}

/-- An operation as a step of a command. -/
def ofOperation (operation : Operation α) : Command α :=
  ExceptT.mk do
    match ← ExceptT.run operation with
    | .ok result => return .ok result
    | .error failure => return .error (.ofFailure failure)

instance : MonadLift Operation Command := ⟨ofOperation⟩

/-- One effect as a step of a command. -/
def perform (effect : Effect α) : Command α :=
  ExceptT.lift (Program.perform effect)

/-- A step whose failure names what was being done. -/
def within (doing : String) (command : Command α) : Command α :=
  ExceptT.mk do
    match ← ExceptT.run command with
    | .ok result => return .ok result
    | .error failure => return .error (failure.within doing)

/-- The value that must be there, or the failure that a text describes. -/
def require (value : Option α) (otherwise : String) : Command α :=
  match value with
  | some a => return a
  | none => throw (.ofText otherwise)

/-- Prints a result: its text, or its document if JSON is wanted. -/
def emit (asJson : Bool) (document : Json) (text : String) : Command Unit :=
  perform (.print (if asJson then document.text else text))

end Command

/-! ## Documents of results -/

/-- The document of a stage. -/
def Stage.toJson (stage : Stage) : Json :=
  .ofMembers [("profile_id", .ofText stage.profileId), ("stage_id", .ofText stage.stageId)]

/-- The document of a capability. -/
def Capability.toJson (capability : Capability) : Json :=
  .ofMembers
    [("async_actions", .bool capability.asyncActions), ("version", .ofText capability.version)]

end ReleaseStaging
