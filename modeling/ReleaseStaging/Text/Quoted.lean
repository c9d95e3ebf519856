import ReleaseStaging.Text.Hexadecimal
import ReleaseStaging.Text.Printable

/-!
# Values shown for inspection

The text by which a value is shown to a developer: strings in double quotes with everything
escaped that would not be seen, optional values as `Some(..)` or `None`, records with their
fields.
-/

namespace ReleaseStaging.Text

/-- A character as it stands inside a quoted text. -/
def quotedChar (c : Char) : String :=
  match c with
  | '"' => "\\\""
  | '\\' => "\\\\"
  | '\n' => "\\n"
  | '\t' => "\\t"
  | '\r' => "\\r"
  | '\x00' => "\\0"
  | _ => if isPrintable c then String.singleton c else "\\u\x7b" ++ lowerHex c.toNat ++ "\x7d"

/-- A text in double quotes. -/
def quoted (text : String) : String :=
  "\"" ++ String.join (text.toList.map quotedChar) ++ "\""

/-- An optional value, shown by `present` if there is one. -/
def shownOption {α : Type} (present : α → String) : Option α → String
  | none => "None"
  | some a => "Some(" ++ present a ++ ")"

/-- A list, its members shown by `member`. -/
def shownList {α : Type} (member : α → String) (members : List α) : String :=
  "[" ++ ", ".intercalate (members.map member) ++ "]"

/-- A record with named fields; `isOpen` tells that it has more fields than are shown. -/
def shownRecord (name : String) (fields : List (String × String)) (isOpen : Bool) : String :=
  let shown := fields.map fun field => field.1 ++ ": " ++ field.2
  let parts := if isOpen then shown ++ [".."] else shown
  name ++ " \x7b " ++ ", ".intercalate parts ++ " \x7d"

end ReleaseStaging.Text
