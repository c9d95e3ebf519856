import ReleaseStaging.Text.Canonical.CombiningClass
import ReleaseStaging.Text.Canonical.Decomposition

/-!
# The canonical composed form

Texts that mean the same are brought to one form: every character is written in full, the marks
after a base are put in the order of their classes, and what can be composed is.
-/

namespace ReleaseStaging.Text.Canonical

/-- Puts a character in front of a text in order: a mark moves behind the marks of lower class. -/
def placeMark (c : Char) : List Char → List Char
  | [] => [c]
  | d :: rest =>
    if 0 < combiningClass d && combiningClass d < combiningClass c then d :: placeMark c rest
    else c :: d :: rest

/-- A text with the marks after each base in the order of their classes. -/
def ordered (text : List Char) : List Char :=
  text.foldr placeMark []

/-- Composes a text in order after a base: `passed` are the marks behind the base that are not
composed with it, the last one first. A character is composed with the base unless it stands behind
a mark of its own class or a higher one. -/
def composeAfter (base : Char) (passed : List Char) : List Char → List Char
  | [] => base :: passed.reverse
  | c :: rest =>
    let reaches := match passed with
      | [] => true
      | last :: _ => combiningClass last < combiningClass c
    match if reaches then composite? base c else none with
    | some composed => composeAfter composed passed rest
    | none =>
      if combiningClass c = 0 then base :: passed.reverse ++ composeAfter c [] rest
      else composeAfter base (c :: passed) rest

/-- A text in order with everything composed that can be. -/
def composed : List Char → List Char
  | [] => []
  | c :: rest =>
    if combiningClass c = 0 then composeAfter c [] rest else c :: composed rest

/-- The canonical form of a text. -/
def form (text : List Char) : List Char :=
  composed (ordered (text.flatMap decomposed))

end ReleaseStaging.Text.Canonical
