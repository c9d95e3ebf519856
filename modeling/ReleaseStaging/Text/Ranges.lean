/-!
# Character properties given by ranges

A character property of the Unicode standard is a list of closed ranges of code points.
-/

namespace ReleaseStaging.Text

/-- A character property: closed ranges of code points, lowest first. -/
structure RangeTable where
  /-- First and last code point of each range. -/
  ranges : List (Nat × Nat)
  deriving DecidableEq, Repr

namespace RangeTable

/-- Whether some range of the table holds the character. -/
def holds (table : RangeTable) (c : Char) : Bool :=
  table.ranges.any fun range => range.1 ≤ c.toNat && c.toNat ≤ range.2

end RangeTable

end ReleaseStaging.Text
