import ReleaseStaging.Text.Fields
import ReleaseStaging.Url.Basic

/-!
# Reading a path

A path is cut at its slashes, and its segments are read one after another: a dot segment takes back
the segment before it or stands for nothing, and all other segments are kept in their encoded form.
-/

namespace ReleaseStaging.Url

/-- The characters of a text that count. -/
def counted (text : List Char) : List Char :=
  text.filter fun c => !isDropped c

/-- A slash, or a backslash where that is one too. -/
def isSlash (isSpecial : Bool) (c : Char) : Bool :=
  c == '/' || (isSpecial && c == '\\')

/-- The segments after one more segment was read; the last one leaves an empty segment if it is a
dot segment. -/
def readSegment (isLast : Bool) (segments : List String) (segment : List Char) : List String :=
  let ending := if isLast then [""] else []
  if isDoubleDot segment then parent segments ++ ending
  else if isSingleDot segment then segments ++ ending
  else segments ++ [String.ofList (encode inPath segment)]

/-- The segments after more segments were read. -/
def readSegments (segments : List String) : List (List Char) → List String
  | [] => segments
  | [last] => readSegment true segments last
  | segment :: rest => readSegments (readSegment false segments segment) rest

/-- The segments of a path before they are read. -/
def rawSegments (isSpecial : Bool) (text : List Char) : List (List Char) :=
  Text.fields '/' (text.map fun c => if isSlash isSpecial c then '/' else c)

/-- The segments of a path that starts after its first slash. -/
def segmentsOf (scheme : String) (text : List Char) : List String :=
  readSegments [] (rawSegments (isSpecial scheme) text)

/-- The path after a server. -/
def pathAfterServer (scheme : String) (text : List Char) : Path :=
  match text with
  | [] => .rooted (if isSpecial scheme then [""] else [])
  | c :: rest =>
    .rooted (segmentsOf scheme (if isSlash (isSpecial scheme) c then rest else text))

end ReleaseStaging.Url
