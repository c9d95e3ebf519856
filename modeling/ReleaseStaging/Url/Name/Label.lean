import ReleaseStaging.Text.Fields
import ReleaseStaging.Url.Name.Direction
import ReleaseStaging.Url.Name.Folding
import ReleaseStaging.Url.Name.Joining
import ReleaseStaging.Url.Name.Refusal
import ReleaseStaging.Url.Punycode

/-!
# Names in ASCII

A name is a sequence of labels with dots between them. It is sent in ASCII: a label with other
characters is written in letters and digits after the lead `xn--`, and a label with that lead stands
for the one that it was written for.
Main statement: a name in ASCII none of whose labels has the lead is sent in small letters, unless
it holds a reserved character.
-/

namespace ReleaseStaging.Url.Name

/-- A label as it is written and as it is meant. -/
structure Label where
  /-- Its characters in ASCII. -/
  written : List Char
  /-- The characters they stand for. -/
  meant : List Char
  deriving DecidableEq, Repr

/-- The lead of a label that stands for one with characters beyond ASCII. -/
def lead : List Char := "xn--".toList

/-- Whether all characters are in ASCII. -/
def isAscii (text : List Char) : Bool :=
  text.all fun c => c.toNat < 128

/-- The most characters that a label beyond ASCII may have. -/
def longestMeant : Nat := 1000

/-- The most characters that may be written after the lead. -/
def longestWritten : Nat := 2000

/-- The label with given characters of a folded name. What is written after the lead has to stand
for a folded label that is not in ASCII. -/
def Label.ofChars? (text : List Char) : Option Label :=
  if lead.isPrefixOf text then
    let rest := text.drop lead.length
    if longestWritten < rest.length then none
    else (Punycode.decode? rest).bind fun meant =>
      if !isAscii meant && meant.length ≤ longestMeant && folded meant == meant then
        some ⟨text, meant⟩
      else none
  else if isAscii text then some ⟨text, text⟩
  else if longestMeant < text.length then none
  else some ⟨lead ++ Punycode.encode text, text⟩

/-- Whether a label may stand in a name: it holds no refused character, does not start with a mark,
and the characters that are not seen stand where they may. -/
def Label.isAllowed (label : Label) : Bool :=
  !label.meant.any isRefused && !(label.meant.head?.any Text.isMark) && joinersFit [] label.meant

/-- Whether the labels of a name run in one direction each, if it matters. -/
def directionsFit (labels : List Label) : Bool :=
  let directions := labels.map fun label => label.meant.map direction
  !directions.any turns || directions.all keepsDirection

/-- Whether a name is in ASCII and no label has the lead for other characters. -/
def isPlain (name : List Char) : Bool :=
  isAscii name && (Text.fields '.' (name.map Char.toLower)).all fun label =>
    !lead.isPrefixOf label

/-- The form of a name in ASCII. -/
def ascii? (name : List Char) : Option (List Char) := do
  if isPlain name then
    let name := name.map Char.toLower
    if name.any isReserved then none else some name
  else
    let labels ← (Text.fields '.' (folded name)).mapM Label.ofChars?
    if labels.all Label.isAllowed && directionsFit labels then
      some (['.'].intercalate (labels.map Label.written))
    else none

end ReleaseStaging.Url.Name
