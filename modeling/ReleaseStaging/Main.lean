import Std.Async.DNS
import Std.Async.Signal
import Std.Async.TCP
import Std.Async.Timer
import ReleaseStaging.CommandLine.Help
import ReleaseStaging.CommandLine.Invocation
import ReleaseStaging.Http.Message
import ReleaseStaging.LogEvent.Line

/-!
# The program

Reads the arguments, the environment and the configuration file, and runs the command that they
ask for: requests go to the server, waiting takes time and ends when the user interrupts it, log
lines go to the standard error and results to the standard output.
-/

namespace ReleaseStaging

open Std.Async

/-! ## Requests -/

/-- The addresses of a host: the one that is written in numbers, or those that its name has. -/
def addressesOf (host : String) (port : Nat) : Async (List Std.Net.SocketAddress) := do
  let port := UInt16.ofNat port
  let bare := String.ofList (host.toList.filter fun c => c != '[' && c != ']')
  let found ← match Std.Net.IPv4Addr.ofString bare, Std.Net.IPv6Addr.ofString bare with
    | some address, _ => pure #[Std.Net.IPAddr.v4 address]
    | none, some address => pure #[Std.Net.IPAddr.v6 address]
    | none, none => DNS.getAddrInfo host (toString port)
  return found.toList.map fun
    | .v4 address => .v4 ⟨address, port⟩
    | .v6 address => .v6 ⟨address, port⟩

/-- Connects to the first address that accepts a connection. -/
def connectToAny : List Std.Net.SocketAddress → Async TCP.Socket.Client
  | [] => throw (IO.userError "no address found")
  | address :: others => do
    let socket ← TCP.Socket.Client.mk
    try
      socket.connect address
      return socket
    catch error =>
      if others.isEmpty then throw error else connectToAny others

/-- Receives until the answer is complete. -/
partial def receive (socket : TCP.Socket.Client) (request : Request) (arrived : List Char) :
    Async Reply := do
  let piece ← socket.recv? 65536
  let arrived := arrived ++ Http.octets ((piece.map ByteArray.toList).getD [])
  match Http.readResponse request.method piece.isNone arrived, piece with
  | .complete response, _ => return .ok response
  | .incomplete, some _ => receive socket request arrived
  | .incomplete, none =>
    return .error (request.unanswered
      ["client error (SendRequest)", "connection closed before message completed"])
  | .malformed, _ =>
    return .error (request.unanswered ["client error (SendRequest)", "invalid HTTP version parsed"])

/-- Sends a request over a new connection and receives the answer. -/
def exchange (sender : Http.Sender) (request : Request) : Async Reply := do
  match request.url.scheme, request.url.authority with
  | "http", some authority =>
    try
      let addresses ← addressesOf authority.host (authority.port.getD 80)
      let socket ← connectToAny addresses
      socket.send (Http.bytesOf (Http.requestMessage sender request))
      receive socket request []
    catch error =>
      return .error (request.unanswered ["client error (Connect)", toString error])
  | _, _ =>
    return .error (request.unanswered
      ["client error (Connect)", "only unencrypted connections are supported"])

/-- Sends a request that is given up after some nanoseconds. -/
def exchangeWithin (limit : Option Nat) (sender : Http.Sender) (request : Request) :
    Async Reply :=
  match limit with
  | none => exchange sender request
  | some nanos =>
    Async.race (exchange sender request) do
      sleep (.ofNat ((nanos + 999999) / 1000000))
      return .error (request.unanswered ["operation timed out"])

/-! ## Effects -/

/-- What running a command needs. -/
structure Terminal where
  /-- How requests are sent. -/
  sender : Http.Sender
  /-- The nanoseconds a request may take. -/
  limit : Option Nat
  /-- The format of log lines. -/
  format : LogFormat
  /-- What is known of the server. -/
  memo : IO.Ref (Option Capability)
  /-- Ends when the user interrupts the program. -/
  interruption : AsyncTask Int

namespace Terminal

/-- The reason for which waiting is cancelled, once the user interrupted the program. -/
def reason (terminal : Terminal) : IO (Option String) := do
  if ← IO.hasFinished terminal.interruption then return some "interrupted by Ctrl-C"
  else return none

/-- The milliseconds after which waiting looks for an interruption. -/
def slice : Nat := 20

/-- Waits for so many slices of time, or until the user interrupts the program. -/
def pauseSlices (terminal : Terminal) : Nat → IO (Option String)
  | 0 => terminal.reason
  | n + 1 => do
    match ← terminal.reason with
    | some reason => return some reason
    | none =>
      IO.sleep (UInt32.ofNat slice)
      terminal.pauseSlices n

/-- Does what a program asks for. -/
def perform {α : Type} (terminal : Terminal) : Effect α → IO α
  | .send request => (exchangeWithin terminal.limit terminal.sender request).block
  | .cancellation => terminal.reason
  | .pause millis => do
    let interrupted ← terminal.pauseSlices (millis / slice)
    if interrupted.isNone then IO.sleep (UInt32.ofNat (millis % slice))
    return interrupted
  | .recall => terminal.memo.get
  | .remember capability => terminal.memo.set (some capability)
  | .note event => IO.eprintln (event.line terminal.format)
  | .print line => IO.println line

/-- Runs a program to its result, if it has one. -/
def follow {α : Type} (terminal : Terminal) : Program α → IO (Option α)
  | .done result => return some result
  | .unfinished => return none
  | .act effect next => do
    let answer ← terminal.perform effect
    terminal.follow (next answer)

end Terminal

/-! ## The environment -/

/-- The fault of a file that the system could not read. -/
def fileFault (error : IO.Error) : Configuration.FileFault :=
  match error with
  | .noFileOrDirectory .. => .notFound
  | .permissionDenied .. => .denied
  | .inappropriateType _ code _ => if code = 20 then .notDirectory else .isDirectory
  | .invalidArgument _ code _ => if code = 36 then .nameTooLong else .other (toString error)
  | _ => .other (toString error)

/-- The content of the configuration file, or why it could not be read. -/
def contentOf (path : String) : IO (Except Configuration.FileFault String) := do
  try
    let bytes ← IO.FS.readBinFile path
    match String.fromUTF8? bytes with
    | some text => return .ok text
    | none => return .error .notText
  catch error => return .error (fileFault error)

/-- The settings in environment variables. -/
def environmentVariables : IO CommandLine.Variables := do
  return {
    url := ← IO.getEnv "NEXUS_URL"
    username := ← IO.getEnv "NEXUS_USERNAME"
    password := ← IO.getEnv "NEXUS_PASSWORD" }

/-- Says why there is nothing to do, and gives the exit code for it. -/
def refuse (fault : CommandLine.UsageFault) : IO UInt32 := do
  match fault with
  | .helpWanted => IO.print CommandLine.helpText
  | .versionWanted => IO.println CommandLine.programName
  | _ =>
    IO.eprintln ("error: " ++ fault.message ++ "\n")
    IO.eprint CommandLine.helpText
  return fault.exitCode.toUInt32

/-- Does what was asked for, and gives the exit code. -/
def serve (invocation : CommandLine.Invocation) : IO UInt32 := do
  let format := LogFormat.ofVariable (← IO.getEnv LogFormat.variableName)
  let content ← match invocation.settings.config with
    | none => pure (.error .notFound)
    | some path => contentOf path
  let configuration := match invocation.settings.configuration content with
    | .ok configuration => configuration
    | .error _ => { baseUrl := "" }
  let terminal : Terminal := {
    sender := match configuration.sender with
      | .ok sender => sender
      | .error _ => ⟨"", ""⟩
    limit := match configuration.timeoutNanos with
      | .ok limit => limit
      | .error _ => none
    format
    memo := ← IO.mkRef none
    interruption := ← (← Signal.Waiter.mk .sigint false).wait }
  match ← terminal.follow (ExceptT.run (invocation.execute content)) with
  | some (.error failure) =>
    let text := (failure.chain.head?).getD ""
    IO.eprintln (format.line "ERROR" "Command failed" [("error", .text text)])
    IO.eprintln failure.report
    return 1
  | some (.ok ()) | none => return 0

end ReleaseStaging

/-- Runs the program. -/
def main (arguments : List String) : IO UInt32 := do
  let surroundings ← ReleaseStaging.environmentVariables
  match ReleaseStaging.CommandLine.Invocation.ofArguments surroundings arguments with
  | .error fault => ReleaseStaging.refuse fault
  | .ok invocation => ReleaseStaging.serve invocation
