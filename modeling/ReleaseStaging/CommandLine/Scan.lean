import ReleaseStaging.CommandLine.Grammar

/-!
# Scanning arguments

The arguments are taken one after another. An option whose value is still to come waits for the
next argument that is no option, and its value is looked at only when the next option comes or when
the arguments end.
-/

namespace ReleaseStaging.CommandLine

/-- What was found so far. -/
structure Scanned where
  /-- The options with their values. -/
  given : List (OptionName × String) := []
  /-- The option that was found last if its value is not settled, and the value if it came. -/
  pending : Option (OptionForm × Option String) := none
  deriving DecidableEq, Repr, Inhabited

namespace Scanned

/-- Whether an option was given. -/
def has (scanned : Scanned) (name : OptionName) : Bool :=
  scanned.given.any fun entry => entry.1 == name

/-- The value that was given for an option. -/
def value? (scanned : Scanned) (name : OptionName) : Option String :=
  scanned.given.lookup name

/-- Whether the next argument can be a value. -/
def isWaiting (scanned : Scanned) : Bool :=
  match scanned.pending with
  | some (_, none) => true
  | _ => false

/-- Adds an option with its value; an option is given once, and its value is of its form. -/
def give (scanned : Scanned) (form : OptionForm) (value : String) : Except UsageFault Scanned := do
  if scanned.has form.name then throw .conflict
  form.value.check value
  return { scanned with given := scanned.given ++ [(form.name, value)] }

/-- Settles the option that was found last. -/
def settle (scanned : Scanned) : Except UsageFault Scanned :=
  let settled := { scanned with pending := none }
  match scanned.pending with
  | none => .ok settled
  | some (_, none) => .error .missingValue
  | some (form, some value) => settled.give form value

/-- Takes an option without a value. -/
def takeFlag (scanned : Scanned) (form : OptionForm) : Except UsageFault Scanned := do
  let scanned ← scanned.settle
  match form.name with
  | .help => throw .helpWanted
  | .version => throw .versionWanted
  | _ => scanned.give form "true"

/-- Takes an option with a value, which may be attached. -/
def takeValued (scanned : Scanned) (form : OptionForm) (attached : Option String) :
    Except UsageFault Scanned := do
  let scanned ← scanned.settle
  match attached with
  | some value => scanned.give form value
  | none => return { scanned with pending := some (form, none) }

end Scanned

/-- The characters before the first equals sign and those after it, if there is one. -/
def cutEquals : List Char → List Char × Option (List Char)
  | [] => ([], none)
  | '=' :: rest => ([], some rest)
  | c :: rest =>
    let (before, after) := cutEquals rest
    (c :: before, after)

/-- Takes an option that is given by its long name. -/
def takeLong (forms : List OptionForm) (scanned : Scanned) (text : List Char) :
    Except UsageFault Scanned :=
  let (name, attached) := cutEquals text
  match forms.find? fun form => form.long == String.ofList name with
  | none => .error .unknownArgument
  | some form =>
    match form.value, attached with
    | .nothing, some _ => .error .unneededValue
    | .nothing, none => scanned.takeFlag form
    | _, _ => scanned.takeValued form (attached.map String.ofList)

/-- The value that is attached to a letter: what follows it, without an equals sign. -/
def attachedValue : List Char → Option String
  | [] => none
  | '=' :: rest => some (String.ofList rest)
  | rest => some (String.ofList rest)

/-- Takes the options that are given by letters after one hyphen. -/
def takeLetters (forms : List OptionForm) : Scanned → List Char → Except UsageFault Scanned
  | scanned, [] => .ok scanned
  | scanned, letter :: rest =>
    match forms.find? fun form => form.short == some letter with
    | none => .error .unknownArgument
    | some form =>
      match form.value with
      | .nothing => do takeLetters forms (← scanned.takeFlag form) rest
      | _ => scanned.takeValued form (attachedValue rest)

/-- What help is asked for by the words after the word for help: each but the last must have
commands below it. -/
def helpFault : List String → UsageFault
  | [] => .helpWanted
  | [word] =>
    if word == helpWord || (Subcommand.ofWord? word).isSome then .helpWanted
    else .invalidSubcommand
  | _ => .invalidSubcommand

/-- The fault of an argument that is neither an option nor a value. -/
def strayFault (level : Option Subcommand) : UsageFault :=
  if level.isNone then .invalidSubcommand else .unknownArgument

/-- The fault of an argument after two lone hyphens. -/
def trailingFault (level : Option Subcommand) (argument : String) : UsageFault :=
  if argument == helpWord || (Subcommand.ofWord? argument).isSome then .unknownArgument
  else strayFault level

/-- Where scanning ends: with the arguments, or at a command and the arguments after it. -/
abbrev ScanEnd : Type := Scanned × Option (Subcommand × List String)

/-- Scans the arguments before a command, or after it. -/
def scan (level : Option Subcommand) : Scanned → List String → Except UsageFault ScanEnd
  | scanned, [] => .ok (scanned, none)
  | scanned, argument :: rest =>
    let isWord := level.isNone && !scanned.isWaiting
    match isWord, Subcommand.ofWord? argument with
    | true, some command => .ok (scanned, some (command, rest))
    | _, _ =>
      if isWord && argument == helpWord then .error (helpFault rest)
      else match argument.toList with
        | ['-', '-'] =>
          match rest with
          | [] => .ok (scanned, none)
          | next :: _ => .error (trailingFault level next)
        | '-' :: '-' :: text => do
          scan level (← takeLong (formsAt level) scanned text) rest
        | '-' :: letter :: letters => do
          scan level (← takeLetters (formsAt level) scanned (letter :: letters)) rest
        | _ =>
          match scanned.pending with
          | some (form, none) =>
            scan level { scanned with pending := some (form, some argument) } rest
          | _ => .error (strayFault level)

end ReleaseStaging.CommandLine
