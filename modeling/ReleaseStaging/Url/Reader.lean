import ReleaseStaging.Text.Scan
import ReleaseStaging.Url.FilePath
import ReleaseStaging.Url.Host

/-!
# Reading an address

An address is read from left to right: scheme, server, path, query, fragment. White space around
it and tabs and line ends in it do not count; what cannot stand in a part is encoded, and dot
segments are resolved.
-/

namespace ReleaseStaging.Url

/-- The characters before the first one of a kind, and those from it on. -/
def cutBefore (isStop : Char → Bool) (text : List Char) : List Char × List Char :=
  (text.takeWhile fun c => !isStop c, text.dropWhile fun c => !isStop c)

/-- The characters before a mark and those after it, if the mark occurs. -/
def cutAt (mark : Char) (text : List Char) : List Char × Option (List Char) :=
  match cutBefore (· == mark) text with
  | (before, []) => (before, none)
  | (before, _ :: after) => (before, some after)

/-- Controls and spaces do not count at either end. -/
def isOuter (c : Char) : Bool :=
  c.toNat ≤ 32

/-- A text without what does not count at its ends. -/
def withoutOuter (text : List Char) : List Char :=
  ((text.dropWhile isOuter).reverse.dropWhile isOuter).reverse

/-- The characters of a scheme after its first letter. -/
def isSchemeChar (c : Char) : Bool :=
  c.isAlphanum || c == '+' || c == '-' || c == '.'

/-- The scheme in lower case and the characters after its colon. -/
def scheme? (text : List Char) : Option (String × List Char) :=
  match cutAt ':' text with
  | (before, some rest) =>
    match counted before with
    | letter :: letters =>
      if letter.isAlpha && letters.all isSchemeChar then
        some (String.ofList ((letter :: letters).map Char.toLower), rest)
      else none
    | [] => none
  | (_, none) => none

/-! ## The server -/

/-- The characters before the last `@` and those after it, if there is one. -/
def cutCredentials (text : List Char) : Option (List Char) × List Char :=
  if text.contains '@' then
    let host := (text.reverse.takeWhile (· != '@')).reverse
    (some (text.take (text.length - host.length - 1)), host)
  else (none, text)

/-- The characters up to the colon before the port; a colon in brackets belongs to the host. -/
def cutPort : Bool → List Char → List Char × Option (List Char)
  | _, [] => ([], none)
  | inBrackets, c :: text =>
    if c == ':' && !inBrackets then ([], some text)
    else
      let (host, port) := cutPort (c == '[' || (inBrackets && c != ']')) text
      (c :: host, port)

/-- The number of a port, and what follows it from a backslash on; without digits there is none,
and the default one is not kept. -/
def port? (scheme : String) (text : List Char) : Except Fault (Option Nat × List Char) :=
  let digits := text.takeWhile Char.isDigit
  let rest := text.dropWhile Char.isDigit
  let number := Text.decimalValue digits
  if 65535 < number || (!rest.isEmpty && rest.head? != some '\\') then .error .invalidPort
  else if digits.isEmpty || some number == defaultPort? scheme then .ok (none, rest)
  else .ok (some number, rest)

/-- The server that the characters between the slashes and the path name, and those of them that
already belong to the path; `isLast` tells that nothing follows them. -/
def authority? (scheme : String) (isLast : Bool) (text : List Char) :
    Except Fault (Authority × List Char) := do
  let (credentials, server) := cutCredentials text
  if credentials == some [] && server.isEmpty && !isLast then throw .emptyHost
  let (username, password) := cutAt ':' (credentials.getD [])
  let (hostText, portText) := cutPort false server
  let special := isSpecial scheme
  if hostText.isEmpty && (special || portText.isSome) then throw .emptyHost
  let host ← if special then specialHost hostText else otherHost hostText
  let (port, rest) ← port? scheme (portText.getD [])
  let authority : Authority :=
    { username := String.ofList (encode inCredentials username)
      password := String.ofList (encode inCredentials (password.getD []))
      host, port }
  if host.isEmpty && !authority.credentials.isEmpty then throw .emptyHost
  return (authority, rest)

/-! ## The parts by scheme -/

/-- Server and path of an address with a special scheme other than that of files; any number of
slashes may stand before the server. -/
def webParts (scheme : String) (isLast : Bool) (text : List Char) :
    Except Fault (Option Authority × Path) := do
  let (server, path) := cutBefore (isSlash true) (text.dropWhile (isSlash true))
  let (authority, rest) ← authority? scheme (isLast && path.isEmpty) server
  return (some authority, pathAfterServer scheme (rest ++ path))

/-- The characters after a slash, if a text starts with one. -/
def afterSlash? (text : List Char) : Option (List Char) :=
  match text.dropWhile isDropped with
  | c :: rest => if isSlash true c then some rest else none
  | [] => none

/-- Server and path of a file after two slashes. The name of a drive is no server, and the own
machine is not named; a path after no name starts with the slash after it, so that a drive in it is
not the first segment. -/
def serverOfFile (text : List Char) : Except Fault (Authority × FilePath) := do
  let named := fun host => Authority.mk "" "" host none
  let (hostText, pathText) := cutBefore (isSlash true) text
  let hostText := counted hostText
  if isDrive hostText then return (named "", .ofChars text)
  let host ← if hostText.isEmpty then pure "" else specialHost hostText
  if host.isEmpty || host == "localhost" then return (named "", .ofChars pathText)
  let path := FilePath.ofChars (pathText.drop 1)
  return (named (if path.isLocal then "" else host), path)

/-- Server and path of a file; characters that do not count have an effect on the name of a
drive. -/
def fileParts (text : List Char) : Except Fault (Option Authority × Path) := do
  match afterSlash? text with
  | none => return (some ⟨"", "", "", none⟩, (FilePath.ofChars text).path)
  | some rest =>
    match afterSlash? rest with
    | none => return (some ⟨"", "", "", none⟩, (FilePath.ofChars rest).path)
    | some rest =>
      let (server, path) ← serverOfFile rest
      return (some server, path.path)

/-- Server and path of an address with another scheme. -/
def otherParts (scheme : String) (isLast : Bool) (text : List Char) :
    Except Fault (Option Authority × Path) := do
  match text with
  | '/' :: '/' :: rest =>
    let (server, path) := cutBefore (· == '/') rest
    let (authority, rest) ← authority? scheme (isLast && path.isEmpty) server
    return (some authority, pathAfterServer scheme (rest ++ path))
  | '/' :: rest => return (none, .rooted (segmentsOf scheme rest))
  | _ => return (none, .rootless (String.ofList (encode isControl text)))

/-- Server and path of an address. -/
def parts (scheme : String) (isLast : Bool) (text : List Char) :
    Except Fault (Option Authority × Path) :=
  if scheme == "file" then fileParts text
  else if isSpecial scheme then webParts scheme isLast (counted text)
  else otherParts scheme isLast (counted text)

/-- The address that a text holds. -/
def ofText (text : String) : Except Fault Url := do
  match scheme? (withoutOuter text.toList) with
  | none => throw .noScheme
  | some (scheme, rest) =>
    let (rest, fragment) := cutAt '#' rest
    let (rest, query) := cutAt '?' rest
    let (authority, path) ← parts scheme (query.isNone && fragment.isNone) rest
    return {
      scheme, authority, path
      isApart := authority.isNone && path.looksLikeServer
      query := query.map fun text =>
        String.ofList (encode (inQuery (isSpecial scheme)) (counted text))
      fragment := fragment.map fun text => String.ofList (encode inFragment (counted text)) }

end ReleaseStaging.Url
