import ReleaseStaging.Url.Path

/-!
# Paths of files

The path of a file may start with the name of a drive, which is a letter with a colon or a bar. It
is written with a colon, and then the file is on the own machine. Empty segments at the start of the
path of a file do not count.
-/

namespace ReleaseStaging.Url

/-- The path of a file as far as it is read. -/
structure FilePath where
  /-- Its segments. -/
  segments : List String
  /-- Whether it starts with the name of a drive: then the file is on the own machine. -/
  isLocal : Bool
  deriving DecidableEq, Repr

/-- The name of a drive that a segment starts with and the characters after it, if between them
stand characters that do not count. Such a segment ends with the name of the drive. -/
def cutDrive? (segment : List Char) : Option (List Char × List Char) :=
  match segment.dropWhile isDropped with
  | [] => none
  | letter :: rest =>
    match rest.dropWhile isDropped with
    | ':' :: rest =>
      if letter.isAlpha && rest.head?.any isDropped && !(counted rest).isEmpty then
        some ([letter, ':'], counted rest)
      else none
    | _ => none

/-- The path after one more segment was read; the first segment may name a drive. What follows a
drive in its segment is no dot segment. -/
def FilePath.read (isLast : Bool) (path : FilePath) (segment : List Char) : FilePath :=
  let name := counted segment
  let longer := { path with segments := readSegment isLast path.segments name }
  if path.segments.isEmpty then
    match cutDrive? segment, name with
    | some (drive, rest), _ =>
      { path with segments := [String.ofList drive, String.ofList (encode inPath rest)] }
    | none, [letter, mark] =>
      if isDrive [letter, mark] then ⟨[String.ofList [letter, ':']], true⟩ else longer
    | none, _ => longer
  else longer

/-- The path after more segments were read. -/
def FilePath.readAll (path : FilePath) : List (List Char) → FilePath
  | [] => path
  | [last] => path.read true last
  | segment :: rest => (path.read false segment).readAll rest

/-- The path of a file whose text starts after its first slash. -/
def FilePath.ofChars (text : List Char) : FilePath :=
  FilePath.readAll ⟨[], false⟩ (rawSegments true text)

/-- The path without the empty segments at its start. -/
def FilePath.path (path : FilePath) : Path :=
  .rooted (trimLeading path.segments)

end ReleaseStaging.Url
