import ReleaseStaging.Text.Fields
import ReleaseStaging.Text.Hexadecimal

/-!
# Character properties with values

A property that has a value for some characters is a list of rows. A row is written `41-5A:61`: the
code points from a first to a last one, a colon, and the numbers for the first of them. The code
points may lie in steps (`100-12E/2:101`), or be one alone (`BC:31.2044.34`), and a row may have no
numbers (`200B`); all is written in hexadecimal digits.
-/

namespace ReleaseStaging.Text

/-- Code points in equal steps, with the numbers for the first of them. -/
structure CodeRow where
  /-- The lowest code point. -/
  first : Nat
  /-- The highest code point. -/
  last : Nat
  /-- How far apart they lie. -/
  step : Nat
  /-- The numbers for the first of them. -/
  numbers : List Nat
  deriving DecidableEq, Repr

namespace CodeRow

/-- The two parts around a separator, or the whole and nothing. -/
def cut (separator : Char) (text : List Char) : List Char × Option (List Char) :=
  match fields separator text with
  | [before, after] => (before, some after)
  | _ => (text, none)

/-- The row that a text describes. -/
def ofText (text : List Char) : CodeRow :=
  let (codes, numbers) := cut ':' text
  let (span, step) := cut '/' codes
  let (first, last) := cut '-' span
  { first := hexValue first
    last := hexValue (last.getD first)
    step := (step.map hexValue).getD 1
    numbers := match numbers with
      | none | some [] => []
      | some numbers => (fields '.' numbers).map hexValue }

/-- Whether a row is about a character. -/
def holds (row : CodeRow) (c : Char) : Bool :=
  row.first ≤ c.toNat && c.toNat ≤ row.last && (c.toNat - row.first) % row.step = 0

/-- The characters that a row puts in place of one: those of its numbers, as far beyond them as the
character lies beyond the first of the row. -/
def image (row : CodeRow) (c : Char) : List Char :=
  row.numbers.map fun n => Char.ofNat (n + (c.toNat - row.first))

end CodeRow

/-- A character property with values. -/
structure CodeTable where
  /-- The rows, lowest first. -/
  rows : List CodeRow
  deriving DecidableEq, Repr

namespace CodeTable

/-- The table whose rows are written in lines, with spaces between them. -/
def ofLines (lines : List String) : CodeTable where
  rows := lines.flatMap fun line => (fields ' ' line.toList).map CodeRow.ofText

/-- The row about a character. -/
def row? (table : CodeTable) (c : Char) : Option CodeRow :=
  table.rows.find? (·.holds c)

/-- Whether a table has a row about a character. -/
def holds (table : CodeTable) (c : Char) : Bool :=
  table.rows.any (·.holds c)

/-- The characters that a table puts in place of one, if it has a row about it. -/
def image? (table : CodeTable) (c : Char) : Option (List Char) :=
  (table.row? c).map (·.image c)

/-- The first number that a table has for a character, zero if it has none. -/
def number (table : CodeTable) (c : Char) : Nat :=
  ((table.row? c).bind (·.numbers.head?)).getD 0

end CodeTable

end ReleaseStaging.Text
