import ReleaseStaging.CommandLine.Grammar

/-!
# Help for the command line

What the user is told about commands and options, and why arguments were refused.
-/

namespace ReleaseStaging.CommandLine

/-- What a command does. -/
def Subcommand.summary : Subcommand → String
  | status => "Check the permissions of the user and the version of the server"
  | version => "Show the version of the server"
  | list => "List the open stages"
  | find => "Find the open stage that holds an artifact"
  | close => "Close a stage, trying again if that fails"
  | drop => "Drop a stage"
  | release => "Release a closed stage"
  | activity => "Show the activity log of a stage"

/-- What an option is for. -/
def OptionName.summary : OptionName → String
  | url => "Base address of the server, or the variable NEXUS_URL"
  | username => "User name, or the variable NEXUS_USERNAME"
  | password => "Password, or the variable NEXUS_PASSWORD"
  | config => "Configuration file in JSON"
  | pollInterval => "Milliseconds between two polls"
  | maxPolls => "Largest number of polls"
  | json => "Print results as JSON"
  | help => "Show this help"
  | version => "Show the version of this program"
  | stage => "Id of the stage"
  | profile => "Profile of the stage"
  | group => "Group of an artifact in the stage"
  | artifact => "Artifact in the stage"
  | artifactVersion => "Version of the artifact"
  | description => "Description of the transition"
  | attempts => "Number of tries"
  | retryDelay => "Seconds between two tries"
  | dropOnFailure => "Drop the stage if it cannot be closed"

/-- How an option is given. -/
def OptionForm.usage (form : OptionForm) : String :=
  let short := match form.short with
    | none => "    "
    | some letter => "-" ++ String.singleton letter ++ ", "
  let value := match form.value with
    | .nothing => ""
    | .text => " TEXT"
    | .path => " FILE"
    | .natural64 | .natural32 => " NUMBER"
  short ++ "--" ++ form.long ++ value

/-- Two columns, the first one filled up with spaces. -/
def helpLine (width : Nat) (left right : String) : String :=
  "  " ++ left ++ String.ofList (List.replicate (width - left.length) ' ') ++ "  " ++ right

/-- The lines about some options. -/
def optionLines (forms : List OptionForm) : List String :=
  forms.map fun form => helpLine 30 form.usage form.name.summary

/-- The help text. -/
def helpText : String :=
  let commands := Subcommand.all.map fun command => helpLine 10 command.word command.summary
  let own := Subcommand.all.filter fun command => !command.forms.isEmpty
  let sections := own.flatMap fun command =>
    "" :: ("Options of " ++ command.word ++ ":") :: optionLines command.forms
  "\n".intercalate (["Usage: nexus-staging [OPTIONS] COMMAND", "", "Commands:"] ++ commands ++
    ["", "Options:"] ++ optionLines (formsAt none) ++ sections) ++ "\n"

/-- Why arguments were refused. -/
def UsageFault.message : UsageFault → String
  | helpWanted | versionWanted => ""
  | nothingGiven | missingSubcommand => "a command is needed"
  | invalidSubcommand => "there is no such command"
  | unknownArgument => "an argument is not known here"
  | missingValue => "the value of an option is missing"
  | malformedValue => "the value of an option is not of its form"
  | unneededValue => "an option that takes no value has one"
  | conflict => "an option is given twice or with one that excludes it"
  | missingOption => "an option that is needed is missing"

end ReleaseStaging.CommandLine
