import ReleaseStaging.Configuration
import ReleaseStaging.Json.Fraction
import ReleaseStaging.Json.Reader

/-!
# Configuration files

A configuration file is one object in JSON. Members with other names do not count, a member that
is left out has its default, and no member may stand there twice. A list of the values, in the
order of the members, is read like the object.
-/

namespace ReleaseStaging

namespace Json

/-- The values of the members with the given names, where they are present: from an object in
which none of these names stands twice, or from a list with at most as many values. -/
def valuesOf? (names : List String) : Json → Option (List (Option Json))
  | .array items =>
    if names.length < items.length then none
    else some ((List.range names.length).map fun i => items[i]?)
  | .object members => do
    let named ← members.mapM fun (name, value) => do
      return (String.ofList (← unescape? name), value)
    if names.any fun name => 1 < (named.filter fun member => member.1 == name).length then none
    else some (names.map fun name => named.lookup name)
  | _ => none

/-- A value that is read if it is present. -/
def orDefault {α : Type} (value : α) (read : Json → Option α) : Option Json → Option α
  | none => some value
  | some document => read document

/-- A natural number below a bound. -/
def natBelow? (bound : Nat) : Json → Option Nat
  | .number value => value.toNat?.filter (· < bound)
  | _ => none

/-- A value, or `null` for none. -/
def nullable? {α : Type} (read : Json → Option α) : Json → Option (Option α)
  | .null => some none
  | document => (read document).map some

/-- A fraction. -/
def fraction64? : Json → Option Binary64
  | .number value => value.toBinary64?
  | _ => none

end Json

namespace PollSettings

/-- The names of the members. -/
def memberNames : List String := ["interval_ms", "max_attempts"]

/-- The settings that a document holds. -/
def ofJson? (document : Json) : Option PollSettings := do
  match ← document.valuesOf? memberNames with
  | [interval, maximum] =>
    let interval ← Json.orDefault 500 (Json.natBelow? UInt64.size) interval
    let maximum ← Json.orDefault none (Json.nullable? (Json.natBelow? UInt32.size)) maximum
    return ⟨UInt64.ofNat interval, maximum.map UInt32.ofNat⟩
  | _ => none

/-- The document of the settings. -/
def toJson (settings : PollSettings) : Json :=
  .ofMembers
    [("interval_ms", .ofNat settings.intervalMillis.toNat),
      ("max_attempts",
        (settings.maxAttempts.map fun attempts => Json.ofNat attempts.toNat).getD .null)]

end PollSettings

namespace Configuration

/-- The names of the members. -/
def memberNames : List String :=
  ["base_url", "username", "password", "user_agent", "request_timeout_seconds", "poll"]

/-- The configuration that a document holds; only the address must be there. -/
def ofJson? (document : Json) : Option Configuration := do
  match ← document.valuesOf? memberNames with
  | [baseUrl, username, password, userAgent, timeout, poll] =>
    return {
      baseUrl := ← baseUrl.bind Json.text?
      username := ← Json.orDefault "" Json.text? username
      password := ← Json.orDefault "" Json.text? password
      userAgent := ← Json.orDefault defaultUserAgent Json.text? userAgent
      requestTimeout := ← Json.orDefault none (Json.nullable? Json.fraction64?) timeout
      poll := ← Json.orDefault {} PollSettings.ofJson? poll }
  | _ => none

/-- The document of a configuration without a time limit. -/
def toJson (configuration : Configuration) : Json :=
  .ofMembers
    [("base_url", .ofText configuration.baseUrl), ("username", .ofText configuration.username),
      ("password", .ofText configuration.password),
      ("user_agent", .ofText configuration.userAgent), ("request_timeout_seconds", .null),
      ("poll", configuration.poll.toJson)]

/-- Why a file could not be read. -/
inductive FileFault where
  /-- There is no such file. -/
  | notFound
  /-- The path names a directory. -/
  | isDirectory
  /-- A part of the path that should be a directory is none. -/
  | notDirectory
  /-- The path or a part of it is too long. -/
  | nameTooLong
  /-- The path holds a character that no path can hold. -/
  | nulInName
  /-- Reading is not allowed. -/
  | denied
  /-- The content is no text. -/
  | notText
  /-- Another fault, in the words of the system. -/
  | other (wording : String)
  deriving DecidableEq, Repr

/-- The wording of a fault. -/
def FileFault.message : FileFault → String
  | notFound => "No such file or directory (os error 2)"
  | isDirectory => "Is a directory (os error 21)"
  | notDirectory => "Not a directory (os error 20)"
  | nameTooLong => "File name too long (os error 36)"
  | nulInName => "file name contained an unexpected NUL byte"
  | denied => "Permission denied (os error 13)"
  | notText => "stream did not contain valid UTF-8"
  | other wording => wording

/-- The configuration in a file, given what reading the file gave. The message for a text that is no
configuration ends before the words of the parser, which say where and why it is none. -/
def ofFile (path : String) (content : Except FileFault String) : Except Failure Configuration :=
  match content with
  | .error fault => .error (.configuration s!"cannot read {path}: {fault.message}")
  | .ok text =>
    match (Json.ofString? text).bind ofJson? with
    | some configuration => .ok configuration
    | none => .error (.configuration s!"cannot parse {path}")

end Configuration

end ReleaseStaging
