import ReleaseStaging.Calendar.Instant
import ReleaseStaging.Text.Blank
import ReleaseStaging.Text.Number

/-!
# Reading times

Servers write a time in one of two forms. `strict?` reads the internet form: four digits of the
year, two of everything else, and a zone that is `Z` or hours, colon and minutes. `lenient?` reads
dates and times with fewer digits, white space before numbers, signed years, and a zone with or
without its colon. `instant?` tries them in this order.
-/

namespace ReleaseStaging.Calendar

/-- A date, a time of day and the distance of its zone from universal time, as they were read. -/
structure Reading where
  /-- The date. -/
  date : Date
  /-- The hour. -/
  hour : Nat
  /-- The minute. -/
  minute : Nat
  /-- The second; 60 stands for a leap second. -/
  second : Nat
  /-- The fraction of the second in nanoseconds. -/
  nanos : Nat
  /-- Seconds that the zone is ahead of universal time. -/
  offset : Int
  deriving DecidableEq, Repr

/-- The instant that was read, if there is such a date and time and its date in universal time is
kept. -/
def Reading.instant? (reading : Reading) : Option Instant :=
  if reading.date.isValid && reading.hour ≤ 23 && reading.minute ≤ 59 && reading.second ≤ 60 &&
      -86400 < reading.offset && reading.offset < 86400 then
    let isLeap := reading.second = 60
    let second := if isLeap then 59 else reading.second
    let time : Nat := reading.hour * 3600 + reading.minute * 60 + second
    let seconds := reading.date.toDays * 86400 + time - reading.offset
    if (Date.ofDays (seconds / 86400)).isValid then
      some ⟨seconds, reading.nanos + if isLeap then 1000000000 else 0⟩
    else none
  else none

/-- The number in the digits at the start of a text: at least `least` of them, at most `most`. -/
def digits? (least most : Nat) (text : List Char) : Option (Nat × List Char) :=
  let run := (text.take most).takeWhile Char.isDigit
  if run.length < least then none else some (Text.decimalValue run, text.drop run.length)

/-- What follows the given character. -/
def after? (c : Char) : List Char → Option (List Char)
  | d :: rest => if d = c then some rest else none
  | [] => none

/-- The fraction after the seconds in nanoseconds, zero if there is none; digits beyond the ninth
do not count. -/
def fraction? (text : List Char) : Option (Nat × List Char) :=
  match text with
  | '.' :: rest =>
    let run := rest.takeWhile Char.isDigit
    if run.isEmpty then none
    else
      let kept := run.take 9
      some (Text.decimalValue kept * Nat.pow 10 (9 - kept.length), rest.dropWhile Char.isDigit)
  | _ => some (0, text)

/-- The sign of a zone: whether it is behind universal time. -/
def zoneSign? : List Char → Option (Bool × List Char)
  | '+' :: rest => some (false, rest)
  | '-' :: rest => some (true, rest)
  | '\u2212' :: rest => some (true, rest)
  | _ => none

/-- A signed zone in hours and minutes with the given separator between them, in seconds. -/
def zone? (separator : List Char → Option (List Char)) (text : List Char) :
    Option (Int × List Char) := do
  let (isBehind, text) ← zoneSign? text
  let (hours, text) ← digits? 2 2 text
  let text ← separator text
  let (minutes, text) ← digits? 2 2 text
  if minutes ≤ 59 then
    let seconds : Int := (hours * 3600 + minutes * 60 : Nat)
    some (if isBehind then -seconds else seconds, text)
  else none

/-- The zone of the internet form; it is less than a day from universal time. -/
def strictZone? (text : List Char) : Option (Int × List Char) :=
  match text with
  | 'Z' :: rest => some (0, rest)
  | 'z' :: rest => some (0, rest)
  | _ => (zone? (after? ':') text).filter fun (offset, _) => -86400 < offset && offset < 86400

/-- The character between date and time in the internet form. -/
def dateEnd? : List Char → Option (List Char)
  | 'T' :: rest => some rest
  | 't' :: rest => some rest
  | ' ' :: rest => some rest
  | _ => none

/-- Reads the internet form. -/
def strict? (text : List Char) : Option Reading := do
  let (year, text) ← digits? 4 4 text
  let text ← after? '-' text
  let (month, text) ← digits? 2 2 text
  let text ← after? '-' text
  let (day, text) ← digits? 2 2 text
  let text ← dateEnd? text
  let (hour, text) ← digits? 2 2 text
  let text ← after? ':' text
  let (minute, text) ← digits? 2 2 text
  let text ← after? ':' text
  let (second, text) ← digits? 2 2 text
  let (nanos, text) ← fraction? text
  let (offset, text) ← strictZone? text
  if text.isEmpty then some ⟨⟨year, month, day⟩, hour, minute, second, nanos, offset⟩ else none

/-- A year with any number of digits after a sign, or with up to four digits. -/
def lenientYear? (text : List Char) : Option (Int × List Char) :=
  match text with
  | '-' :: rest => (digits? 1 rest.length rest).map fun (year, rest) => (-(year : Int), rest)
  | '+' :: rest => (digits? 1 rest.length rest).map fun (year, rest) => ((year : Int), rest)
  | _ => (digits? 1 4 text).map fun (year, rest) => ((year : Int), rest)

/-- One or two digits after white space. -/
def lenientPart? (text : List Char) : Option (Nat × List Char) :=
  digits? 1 2 (text.dropWhile Text.isBlank)

/-- A zone whose hours and minutes may be separated by colons and white space. -/
def lenientZone? (text : List Char) : Option (Int × List Char) :=
  zone? (fun rest => some (rest.dropWhile fun c => c = ':' || Text.isBlank c))
    (text.dropWhile Text.isBlank)

/-- Reads the form with optional digits. -/
def lenient? (text : List Char) : Option Reading := do
  let (year, text) ← lenientYear? (text.dropWhile Text.isBlank)
  let text ← after? '-' text
  let (month, text) ← lenientPart? text
  let text ← after? '-' text
  let (day, text) ← lenientPart? text
  let text ← after? 'T' text
  let (hour, text) ← lenientPart? text
  let text ← after? ':' text
  let (minute, text) ← lenientPart? text
  let text ← after? ':' text
  let (second, text) ← lenientPart? text
  let (nanos, text) ← fraction? text
  let (offset, text) ← lenientZone? text
  if text.isEmpty then some ⟨⟨year, month, day⟩, hour, minute, second, nanos, offset⟩ else none

/-- The instant that a text names in one of the two forms. -/
def instant? (text : String) : Option Instant :=
  match (strict? text.toList).bind Reading.instant? with
  | some instant => some instant
  | none => (lenient? text.toList).bind Reading.instant?

end ReleaseStaging.Calendar
