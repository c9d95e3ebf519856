import ReleaseStaging.Json.Value
import ReleaseStaging.LogEvent
import ReleaseStaging.LogFormat

/-!
# Log lines

A log event is one line: its level, its message and its fields for people, or one object in JSON.
-/

namespace ReleaseStaging

/-- The value of a field for people. -/
def LogValue.shown : LogValue → String
  | text value => value
  | number value => toString value
  | flag value => toString value

/-- The value of a field in JSON. -/
def LogValue.toJson : LogValue → Json
  | text value => .ofText value
  | number value => .ofNat value
  | flag value => .bool value

/-- A line of the log with a level, a message and fields. -/
def LogFormat.line (format : LogFormat) (level message : String)
    (fields : List (String × LogValue)) : String :=
  match format with
  | text =>
    " ".intercalate ([level, message] ++ fields.map fun field =>
      field.1 ++ "=" ++ field.2.shown)
  | json =>
    let members := fields.map fun field => (field.1, field.2.toJson)
    (Json.ofMembers [("level", .ofText level), ("message", .ofText message),
      ("fields", .ofMembers members)]).text

/-- The line of an event. -/
def LogEvent.line (event : LogEvent) (format : LogFormat) : String :=
  format.line event.level.word event.message event.fields

end ReleaseStaging
