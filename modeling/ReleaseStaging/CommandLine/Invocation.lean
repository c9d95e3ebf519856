import ReleaseStaging.Command.Queries
import ReleaseStaging.Command.Transitions
import ReleaseStaging.CommandLine.Scan
import ReleaseStaging.Configuration.Document

/-!
# What the user asks for

The arguments and the environment together give a command and the settings for it. Options can
stand before the command or after it; the ones after it count more, and the environment counts
least. Some options need others and some exclude each other.
-/

namespace ReleaseStaging

namespace CommandLine

/-! ## Options that need or exclude each other -/

/-- The options that an option needs, directly or by others, among those that say which stage is
meant. -/
def needs : OptionName → List OptionName
  | .profile => [.stage]
  | .group => [.artifact]
  | .artifact => [.group]
  | .artifactVersion => [.group, .artifact]
  | _ => []

/-- Whether two options exclude each other. -/
def excludes (a b : OptionName) : Bool :=
  (a == .stage && b == .group) || (a == .group && b == .stage)

/-- The options that must be given, in view of those that are. -/
def required (command : Subcommand) (scanned : Scanned) : List OptionName :=
  if command.hasTarget then scanned.given.flatMap fun entry => needs entry.1
  else if command = .find then [.group, .artifact]
  else []

/-- Whether an option that must be given is missing; it may be if one that excludes it is given. -/
def isLacking (command : Subcommand) (scanned : Scanned) (name : OptionName) : Bool :=
  !scanned.has name &&
    !(command.hasTarget && scanned.given.any fun entry => excludes name entry.1)

/-- Fails if options that exclude each other are given, or if one is missing. -/
def check (command : Subcommand) (scanned : Scanned) : Except UsageFault Unit :=
  if scanned.has .stage && scanned.has .group then .error .conflict
  else if (required command scanned).any (isLacking command scanned) then .error .missingOption
  else .ok ()

/-! ## Settings and commands -/

/-- What the environment gives. -/
structure Variables where
  /-- The base address of the server. -/
  url : Option String := none
  /-- The user name. -/
  username : Option String := none
  /-- The password. -/
  password : Option String := none
  deriving DecidableEq, Repr, Inhabited

/-- Whether the environment gives anything. -/
def Variables.isEmpty (fallback : Variables) : Bool :=
  fallback.url.isNone && fallback.username.isNone && fallback.password.isNone

/-- The settings of a command. -/
structure Settings where
  /-- The base address of the server. -/
  url : Option String
  /-- The user name. -/
  username : Option String
  /-- The password. -/
  password : Option String
  /-- The configuration file. -/
  config : Option String
  /-- The pause between two polls in milliseconds. -/
  pollInterval : Option UInt64
  /-- The limit on the number of polls. -/
  maxPolls : Option UInt32
  /-- Whether results are printed as JSON. -/
  json : Bool
  deriving DecidableEq, Repr

/-- A command with its options. -/
inductive Choice where
  /-- Check the permissions and show what the server is able to do. -/
  | status
  /-- Show the version of the server. -/
  | version
  /-- List the open stages. -/
  | list
  /-- Find the open stage that holds an artifact. -/
  | find (coordinates : Coordinates)
  /-- Close a stage; the pause between two tries is in seconds. -/
  | close (target : StageTarget) (description : String) (attempts : UInt32)
      (retryDelaySeconds : UInt64) (dropOnFailure : Bool)
  /-- Drop a stage. -/
  | drop (target : StageTarget)
  /-- Release a stage. -/
  | release (target : StageTarget) (description : String)
  /-- Show the activity log of a stage. -/
  | activity (target : StageTarget)
  deriving DecidableEq, Repr

/-- The target that the options of a command name. -/
def targetOf (scanned : Scanned) : StageTarget where
  stage := scanned.value? .stage
  profile := scanned.value? .profile
  group := scanned.value? .group
  artifact := scanned.value? .artifact
  version := scanned.value? .artifactVersion

/-- The command that its options make. -/
def choiceOf (command : Subcommand) (scanned : Scanned) : Choice :=
  match command with
  | .status => .status
  | .version => .version
  | .list => .list
  | .find =>
    .find ⟨(scanned.value? .group).getD "", (scanned.value? .artifact).getD "",
      scanned.value? .artifactVersion⟩
  | .close =>
    .close (targetOf scanned) ((scanned.value? .description).getD "Closed by nexus-staging")
      (((scanned.value? .attempts).bind natural32?).getD 5)
      (((scanned.value? .retryDelay).bind natural64?).getD 15) (scanned.has .dropOnFailure)
  | .drop => .drop (targetOf scanned)
  | .release =>
    .release (targetOf scanned)
      ((scanned.value? .description).getD "Released by nexus-staging")
  | .activity => .activity (targetOf scanned)

/-- What the user asks for. -/
structure Invocation where
  /-- The settings. -/
  settings : Settings
  /-- The command. -/
  choice : Choice
  deriving DecidableEq, Repr

/-- The settings that the options before and after the command and the environment make. -/
def settingsOf (before after : Scanned) (fallback : Variables) : Settings :=
  let value? := fun name => (after.value? name).or (before.value? name)
  { url := (value? .url).or fallback.url
    username := (value? .username).or fallback.username
    password := (value? .password).or fallback.password
    config := value? .config
    pollInterval := (value? .pollInterval).bind natural64?
    maxPolls := (value? .maxPolls).bind natural32?
    json := before.has .json || after.has .json }

/-- What the arguments ask for. A fault after the command is found before one that is left open
before it. -/
def Invocation.ofArguments (fallback : Variables) (arguments : List String) :
    Except UsageFault Invocation := do
  let (scanned, rest) ← scan none {} arguments
  match rest with
  | none =>
    let before ← scanned.settle
    if before.given.isEmpty && fallback.isEmpty then throw .nothingGiven
    else throw .missingSubcommand
  | some (command, rest) =>
    let (inner, _) ← scan (some command) {} rest
    let after ← inner.settle
    check command after
    let before ← scanned.settle
    return ⟨settingsOf before after fallback, choiceOf command after⟩

end CommandLine

open CommandLine

namespace CommandLine.Settings

/-- The configuration that the settings change. -/
def applyTo (settings : Settings) (configuration : Configuration) : Configuration :=
  let poll := configuration.poll
  let paused := match settings.pollInterval with
    | none => poll
    | some millis => poll.withInterval millis.toNat
  { configuration with
    baseUrl := settings.url.getD configuration.baseUrl
    username := settings.username.getD configuration.username
    password := settings.password.getD configuration.password
    poll := match settings.maxPolls with
      | none => paused
      | some attempts => paused.withMaxAttempts attempts }

/-- The configuration of the client: from the configuration file if there is one, changed by the
settings. `content` is what reading the file gave. -/
def configuration (settings : Settings) (content : Except Configuration.FileFault String) :
    Except CommandFailure Configuration :=
  match settings.config, settings.url with
  | some path, _ =>
    match Configuration.ofFile path content with
    | .ok configuration => .ok (settings.applyTo configuration)
    | .error failure =>
      .error ((CommandFailure.ofFailure failure).within s!"loading configuration from {path}")
  | none, some url => .ok (settings.applyTo { baseUrl := url })
  | none, none => .error (.ofText "no server URL; pass --url or set NEXUS_URL")

end CommandLine.Settings

/-- The command of a choice. -/
def CommandLine.Choice.command (choice : Choice) (client : Client) (asJson : Bool) :
    Command Unit :=
  match choice with
  | .status => Command.status client asJson
  | .version => Command.version client asJson
  | .list => Command.list client asJson
  | .find coordinates => Command.find client asJson coordinates
  | .close target description attempts retryDelaySeconds dropOnFailure =>
    Command.close client asJson target description
      ⟨attempts, 1000 * retryDelaySeconds.toNat, dropOnFailure⟩
  | .drop target => Command.drop client asJson target
  | .release target description => Command.release client asJson target description
  | .activity target => Command.activity client asJson target

/-- Does what the user asks for. -/
def CommandLine.Invocation.execute (invocation : Invocation)
    (content : Except Configuration.FileFault String) : Command Unit := do
  let configuration ← ExceptT.mk (pure (invocation.settings.configuration content))
  let client ← Command.within "creating staging client"
    (ExceptT.mk (pure (configuration.connect.mapError CommandFailure.ofFailure)))
  invocation.choice.command client invocation.settings.json

end ReleaseStaging
