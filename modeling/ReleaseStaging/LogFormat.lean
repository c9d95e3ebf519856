import ReleaseStaging.Failure
import ReleaseStaging.Text.Blank

/-!
# The format of log lines

Log lines are written for people or as one JSON object each. An environment variable selects the
format.
-/

namespace ReleaseStaging

/-- The format of log lines. -/
inductive LogFormat where
  /-- Lines for people. -/
  | text
  /-- One JSON object a line. -/
  | json
  deriving DecidableEq, Repr, Inhabited

namespace LogFormat

/-- The environment variable that selects the format. -/
def variableName : String := "NEXUS_STAGING_LOG_FORMAT"

/-- The events that are shown when nothing else is asked for. -/
def defaultFilter : String := "nexus_staging=info"

/-- The word of a format. -/
def word : LogFormat → String
  | text => "Text"
  | json => "Json"

/-- The lower-case form of the ASCII letters of a text; other characters stay. -/
def lowerAscii (text : List Char) : List Char :=
  text.map Char.toLower

/-- The format a word selects, in any case and with any white space around it. -/
def ofText (text : String) : Except Failure LogFormat :=
  let word := String.ofList (lowerAscii (Text.trim text.toList))
  if word = "text" || word = "pretty" then .ok .text
  else if word = "json" then .ok .json
  else .error (.configuration s!"unknown log format '{word}'")

/-- The format selected by the environment; without a usable selection it is the text format. -/
def ofVariable (value : Option String) : LogFormat :=
  match value.map ofText with
  | some (.ok format) => format
  | _ => .text

/-- The failure to install log output where some is installed already. -/
def alreadyInstalled : Failure :=
  .configuration
    "failed to install log subscriber: a global default trace dispatcher has already been set"

end LogFormat

end ReleaseStaging
