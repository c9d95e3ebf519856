import ReleaseStaging.Text.Number

/-!
# The grammar of the command line

Which options there are, by which names they are given, which of them take a value and which
belong to which command.
-/

namespace ReleaseStaging.CommandLine

/-- The name and the version of this program. -/
def programName : String := "nexus-staging 0.1.0"

/-- An option. -/
inductive OptionName where
  /-- The base address of the server. -/
  | url
  /-- The user name. -/
  | username
  /-- The password. -/
  | password
  /-- The configuration file. -/
  | config
  /-- The pause between two polls. -/
  | pollInterval
  /-- The limit on the number of polls. -/
  | maxPolls
  /-- Results in JSON. -/
  | json
  /-- Show help. -/
  | help
  /-- Show the version of this program. -/
  | version
  /-- The id of a stage. -/
  | stage
  /-- The profile of a stage. -/
  | profile
  /-- The group of an artifact. -/
  | group
  /-- An artifact. -/
  | artifact
  /-- The version of an artifact. -/
  | artifactVersion
  /-- A description of a transition. -/
  | description
  /-- The number of tries. -/
  | attempts
  /-- The pause between two tries. -/
  | retryDelay
  /-- Drop a stage that cannot be closed. -/
  | dropOnFailure
  deriving DecidableEq, Repr

/-- What an option takes as its value. -/
inductive ValueForm where
  /-- Nothing. -/
  | nothing
  /-- Any text. -/
  | text
  /-- The path of a file, which is not empty. -/
  | path
  /-- A natural number of 64 bits. -/
  | natural64
  /-- A natural number of 32 bits. -/
  | natural32
  deriving DecidableEq, Repr

/-- How an option is given. -/
structure OptionForm where
  /-- The option. -/
  name : OptionName
  /-- The name after two hyphens. -/
  long : String
  /-- The letter after one hyphen. -/
  short : Option Char
  /-- What it takes. -/
  value : ValueForm
  deriving DecidableEq, Repr

/-- A command. -/
inductive Subcommand where
  /-- Check the permissions of the user and show what the server is able to do. -/
  | status
  /-- Show the version of the server. -/
  | version
  /-- List the open stages. -/
  | list
  /-- Find the open stage that holds an artifact. -/
  | find
  /-- Close a stage. -/
  | close
  /-- Drop a stage. -/
  | drop
  /-- Release a stage. -/
  | release
  /-- Show the activity log of a stage. -/
  | activity
  deriving DecidableEq, Repr

namespace Subcommand

/-- Every command. -/
def all : List Subcommand := [status, version, list, find, close, drop, release, activity]

/-- The word by which a command is given. -/
def word : Subcommand → String
  | status => "status"
  | version => "version"
  | list => "list"
  | find => "find"
  | close => "close"
  | drop => "drop"
  | release => "release"
  | activity => "activity"

/-- The command that a word gives. -/
def ofWord? (text : String) : Option Subcommand :=
  all.find? fun command => command.word == text

end Subcommand

/-- The word that asks for help in place of a command. -/
def helpWord : String := "help"

/-- The options that can be given anywhere. -/
def commonForms : List OptionForm :=
  [⟨.url, "url", none, .text⟩, ⟨.username, "username", some 'u', .text⟩,
    ⟨.password, "password", some 'p', .text⟩, ⟨.config, "config", some 'c', .path⟩,
    ⟨.pollInterval, "poll-interval-ms", none, .natural64⟩,
    ⟨.maxPolls, "max-polls", none, .natural32⟩, ⟨.json, "json", none, .nothing⟩,
    ⟨.help, "help", some 'h', .nothing⟩]

/-- The options that name an artifact. -/
def coordinateForms : List OptionForm :=
  [⟨.group, "group", some 'g', .text⟩, ⟨.artifact, "artifact", some 'a', .text⟩,
    ⟨.artifactVersion, "artifact-version", some 'v', .text⟩]

/-- The options that say which stage is meant. -/
def targetForms : List OptionForm :=
  [⟨.stage, "stage", some 's', .text⟩, ⟨.profile, "profile", none, .text⟩] ++ coordinateForms

/-- The option that describes a transition. -/
def descriptionForm : OptionForm := ⟨.description, "description", some 'd', .text⟩

/-- The options of a command. -/
def Subcommand.forms : Subcommand → List OptionForm
  | status | version | list => []
  | find => coordinateForms
  | close =>
    targetForms ++ [descriptionForm, ⟨.attempts, "attempts", none, .natural32⟩,
      ⟨.retryDelay, "retry-delay-secs", none, .natural64⟩,
      ⟨.dropOnFailure, "drop-on-failure", none, .nothing⟩]
  | release => targetForms ++ [descriptionForm]
  | drop | activity => targetForms

/-- Whether a command works on a stage that is named by options. -/
def Subcommand.hasTarget : Subcommand → Bool
  | close | drop | release | activity => true
  | status | version | list | find => false

/-- The options before the command, or after it. -/
def formsAt : Option Subcommand → List OptionForm
  | none => commonForms ++ [⟨.version, "version", some 'V', .nothing⟩]
  | some command => commonForms ++ command.forms

/-! ## Values -/

/-- A natural number of 64 bits; a plus sign may stand before its digits. -/
def natural64? (text : String) : Option UInt64 :=
  (Text.unsignedBelow? UInt64.size text.toList).map UInt64.ofNat

/-- A natural number of 32 bits; a plus sign may stand before its digits, and a minus sign before
zero. -/
def natural32? (text : String) : Option UInt32 :=
  match Text.signedWithin? (Int64.size / 2) text.toList with
  | some (.ofNat n) => if n < UInt32.size then some (UInt32.ofNat n) else none
  | _ => none

/-! ## Faults -/

/-- Why the arguments do not give a command that can be run. -/
inductive UsageFault where
  /-- Help was asked for. -/
  | helpWanted
  /-- The version of this program was asked for. -/
  | versionWanted
  /-- Nothing was given at all, so help is shown. -/
  | nothingGiven
  /-- There is no command. -/
  | missingSubcommand
  /-- There is no such command. -/
  | invalidSubcommand
  /-- There is no such option, or an argument that is none. -/
  | unknownArgument
  /-- The value of an option is missing or empty. -/
  | missingValue
  /-- The value of an option is not of its form. -/
  | malformedValue
  /-- An option that takes no value has one. -/
  | unneededValue
  /-- An option is given twice, or with one that excludes it. -/
  | conflict
  /-- An option that is needed is missing. -/
  | missingOption
  deriving DecidableEq, Repr

/-- The exit code of a fault: asking for help or for the version is no error. -/
def UsageFault.exitCode : UsageFault → UInt8
  | helpWanted | versionWanted => 0
  | _ => 2

/-- Fails unless a text is of the form that an option takes. -/
def ValueForm.check (form : ValueForm) (text : String) : Except UsageFault Unit :=
  match form with
  | nothing | .text => .ok ()
  | path => if text.isEmpty then .error .missingValue else .ok ()
  | natural64 => if (natural64? text).isSome then .ok () else .error .malformedValue
  | natural32 => if (natural32? text).isSome then .ok () else .error .malformedValue

end ReleaseStaging.CommandLine
