import ReleaseStaging.Url.Name.Label
import ReleaseStaging.Url.Ip

/-!
# Hosts

The host of an address is a name, an address of four bytes or an address of eight groups in
brackets. A host is kept in the form in which it is written.
-/

namespace ReleaseStaging.Url

/-- Why a text is no address. -/
inductive Fault where
  /-- There is no scheme. -/
  | noScheme
  /-- There is no host. -/
  | emptyHost
  /-- The port is no number below 65536. -/
  | invalidPort
  /-- The host ends in a number and is no address of four bytes. -/
  | invalidIpv4
  /-- The host is in brackets and no address of eight groups. -/
  | invalidIpv6
  /-- The host has no form in ASCII. -/
  | invalidName
  /-- The host holds a character that has a meaning of its own. -/
  | invalidNameCharacter
  deriving DecidableEq, Repr

/-- The wording of a fault. -/
def Fault.message : Fault → String
  | noScheme => "relative URL without a base"
  | emptyHost => "empty host"
  | invalidPort => "invalid port number"
  | invalidIpv4 => "invalid IPv4 address"
  | invalidIpv6 => "invalid IPv6 address"
  | invalidName => "invalid international domain name"
  | invalidNameCharacter => "invalid domain character"

/-- The text in brackets, if the host starts with one. -/
def bracketed? (host : List Char) : Option (Except Fault String) :=
  match host with
  | '[' :: rest =>
    some <| match rest.getLast?, ipv6? rest.dropLast with
      | some ']', some groups => .ok ("[" ++ ipv6Text groups ++ "]")
      | _, _ => .error .invalidIpv6
  | _ => none

/-- A host written in ASCII: an address of four bytes if it ends in a number, else a name. -/
def asciiHost (name : List Char) : Except Fault String :=
  if name.isEmpty then .error .emptyHost
  else if endsInNumber name then
    match ipv4? name with
    | some address => .ok (ipv4Text address)
    | none => .error .invalidIpv4
  else .ok (String.ofList name)

/-- The host of an address with a special scheme. -/
def specialHost (host : List Char) : Except Fault String :=
  match bracketed? host with
  | some read => read
  | none =>
    match (String.fromUTF8? (ByteArray.mk (decode host).toArray)).bind fun name =>
        Name.ascii? name.toList with
    | none => .error .invalidName
    | some name => asciiHost name

/-- The characters that cannot stand in the host of an address with another scheme. -/
def isHostDelimiter (c : Char) : Bool :=
  ['\x00', '\t', '\n', '\r', ' ', '#', '/', ':', '<', '>', '?', '@', '[', '\\', ']', '^',
    '|'].contains c

/-- The host of an address with another scheme. -/
def otherHost (host : List Char) : Except Fault String :=
  match bracketed? host with
  | some read => read
  | none =>
    if host.any isHostDelimiter then .error .invalidNameCharacter
    else .ok (String.ofList (encode isControl host))

end ReleaseStaging.Url
