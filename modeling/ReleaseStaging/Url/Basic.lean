import ReleaseStaging.Url.Percent

/-!
# Addresses

An address has a scheme, mostly a host, a path, and perhaps a query and a fragment. All its parts
are kept in the form in which they are written, so the text of an address is their concatenation.
-/

namespace ReleaseStaging

namespace Url

/-- Where the server of an address is. -/
structure Authority where
  /-- The user name, encoded; empty if there is none. -/
  username : String
  /-- The password, encoded; empty if there is none. -/
  password : String
  /-- The host; empty if there is none. -/
  host : String
  /-- The port, unless it is the default one of the scheme. -/
  port : Option Nat
  deriving DecidableEq, Repr

/-- The user name and the password, up to the host. -/
def Authority.credentials (authority : Authority) : String :=
  if authority.username.isEmpty && authority.password.isEmpty then ""
  else if authority.password.isEmpty then authority.username ++ "@"
  else authority.username ++ ":" ++ authority.password ++ "@"

/-- The text between the two slashes and the path. -/
def Authority.text (authority : Authority) : String :=
  let port := match authority.port with
    | none => ""
    | some number => ":" ++ toString number
  authority.credentials ++ authority.host ++ port

/-- The path of an address. -/
inductive Path where
  /-- A text without structure; nothing can be put below it. -/
  | rootless (text : String)
  /-- Segments, a slash before each. -/
  | rooted (segments : List String)
  deriving DecidableEq, Repr

/-- The text of a path. -/
def Path.text : Path → String
  | rootless text => text
  | rooted segments => String.join (segments.map fun segment => "/" ++ segment)

end Url

/-- An address. -/
structure Url where
  /-- The scheme, in lower case. -/
  scheme : String
  /-- The server, if the address names one. -/
  authority : Option Url.Authority
  /-- Whether the path looked like a server when the address was read. -/
  isApart : Bool
  /-- The path. -/
  path : Url.Path
  /-- The query, encoded. -/
  query : Option String
  /-- The fragment, encoded. -/
  fragment : Option String
  deriving DecidableEq, Repr

namespace Url

/-- Whether the text of a path starts with two slashes, as that of a server does. -/
def Path.looksLikeServer : Path → Bool
  | rooted ("" :: _ :: _) => true
  | _ => false

/-- What stands between the scheme and the path. Without a server, a path that looks like one is
kept apart by a dot segment, and the dot stays if the path changes. -/
def server (url : Url) : String :=
  match url.authority with
  | some authority => "//" ++ authority.text
  | none => if url.isApart || url.path.looksLikeServer then "/." else ""

/-- A part of an address behind its mark, if it is there. -/
def marked (mark : String) : Option String → String
  | none => ""
  | some text => mark ++ text

/-- The text of an address. -/
def text (url : Url) : String :=
  url.scheme ++ ":" ++ url.server ++ url.path.text ++ marked "?" url.query ++
    marked "#" url.fragment

/-- The address without query and fragment. -/
def withoutQuery (url : Url) : Url :=
  { url with query := none, fragment := none }

/-- The address without user name and password. -/
def withoutCredentials (url : Url) : Url :=
  { url with
    authority := url.authority.map fun authority =>
      { authority with username := "", password := "" } }

/-- The schemes whose addresses always name a server and for which a backslash is a slash. -/
def isSpecial (scheme : String) : Bool :=
  ["http", "https", "ws", "wss", "ftp", "file"].contains scheme

/-- The port that need not be written. -/
def defaultPort? (scheme : String) : Option Nat :=
  [("http", 80), ("https", 443), ("ws", 80), ("wss", 443), ("ftp", 21)].lookup scheme

/-! ## Segments -/

/-- A segment that stands for the one before it. -/
def isSingleDot (segment : List Char) : Bool :=
  [".", "%2e"].contains (String.ofList (segment.map Char.toLower))

/-- A segment that takes back the one before it. -/
def isDoubleDot (segment : List Char) : Bool :=
  ["..", "%2e.", ".%2e", "%2e%2e"].contains (String.ofList (segment.map Char.toLower))

/-- A letter and a colon or a bar: the name of a drive. -/
def isDrive (segment : List Char) : Bool :=
  match segment with
  | [letter, mark] => letter.isAlpha && (mark == ':' || mark == '|')
  | _ => false

/-- The segments without the last one; the name of a drive stays. -/
def parent (segments : List String) : List String :=
  match segments.getLast? with
  | none => []
  | some last => if isDrive last.toList then segments else segments.dropLast

/-- Removes the empty segments at the start, up to the last segment. -/
def trimLeading : List String → List String
  | "" :: segment :: rest => trimLeading (segment :: rest)
  | segments => segments

/-! ## Below an address -/

/-- Tabs and line ends are dropped wherever they stand in an address. -/
def isDropped (c : Char) : Bool :=
  c == '\t' || c == '\n' || c == '\r'

/-- Puts one more segment below a path; a lone empty segment is the root and gives way. Dots are
the only dot segments here, since a percent sign is encoded. -/
def pushSegment (isSpecial : Bool) (segments : List String) (segment : String) : List String :=
  let above := if segments = [""] then [] else segments
  let written := segment.toList.filter fun c => !isDropped c
  if written = ['.', '.'] then parent above ++ [""]
  else if written = ['.'] then above ++ [""]
  else above ++ [String.ofList (encode (inSegment isSpecial) written)]

/-- The path without one empty segment at its end; the root stays. -/
def popEmpty (segments : List String) : List String :=
  if segments.getLast? = some "" && segments ≠ [""] then segments.dropLast else segments

/-- The segments below which others are put, unless nothing can be put below the path. -/
def segments? (url : Url) : Option (List String) :=
  match url.path with
  | .rootless _ => none
  | .rooted segments => some segments

/-- The address with other segments. -/
def withSegments (url : Url) (segments : List String) : Url :=
  { url with path := .rooted segments }

/-- The address of a path relative to the last slash of a base. -/
def join (base : Url) (segments : List String) : Url :=
  { base.withoutQuery with
    path := .rooted ((base.segments?.getD []).dropLast ++ segments) }

end Url

end ReleaseStaging
