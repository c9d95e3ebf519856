/-!
# Instants

A moment in universal time, to the nanosecond, and its text. Dates follow the Gregorian calendar
without a first year. A leap second is the second after second 59, kept as more than a full second
of nanoseconds.
-/

namespace ReleaseStaging.Calendar

/-- A date of the Gregorian calendar. -/
structure Date where
  /-- The year; years before the first one are zero and negative. -/
  year : Int
  /-- The month, from 1. -/
  month : Nat
  /-- The day of the month, from 1. -/
  day : Nat
  deriving DecidableEq, Repr

namespace Date

/-- Whether a year has a leap day. -/
def isLeapYear (year : Int) : Bool :=
  year % 4 = 0 && (year % 100 != 0 || year % 400 = 0)

/-- The number of days of a month. -/
def daysInMonth (year : Int) (month : Nat) : Nat :=
  match month with
  | 2 => if isLeapYear year then 29 else 28
  | 4 | 6 | 9 | 11 => 30
  | _ => 31

/-- Whether the calendar has the date, in the years that dates are kept for. -/
def isValid (date : Date) : Bool :=
  -262143 ≤ date.year && date.year ≤ 262142 && 1 ≤ date.month && date.month ≤ 12 &&
    1 ≤ date.day && date.day ≤ daysInMonth date.year date.month

/-- The days from the first of March before the year 0 to a date in a year that starts with
March, within a cycle of 400 years. -/
def dayOfCycle (yearOfCycle monthFromMarch dayFromZero : Int) : Int :=
  yearOfCycle * 365 + yearOfCycle / 4 - yearOfCycle / 100 +
    (153 * monthFromMarch + 2) / 5 + dayFromZero

/-- The number of days from the first of January 1970 to a date. -/
def toDays (date : Date) : Int :=
  let year := if date.month ≤ 2 then date.year - 1 else date.year
  let monthFromMarch : Int := if date.month ≤ 2 then date.month + 9 else date.month - 3
  let cycle := year / 400
  cycle * 146097 + dayOfCycle (year - cycle * 400) monthFromMarch (date.day - 1) - 719468

/-- The date that many days after the first of January 1970. -/
def ofDays (days : Int) : Date :=
  let shifted := days + 719468
  let cycle := shifted / 146097
  let day := shifted - cycle * 146097
  let year := (day - day / 1460 + day / 36524 - day / 146096) / 365
  let dayOfYear := day - (365 * year + year / 4 - year / 100)
  let monthFromMarch := (5 * dayOfYear + 2) / 153
  let month := if monthFromMarch < 10 then monthFromMarch + 3 else monthFromMarch - 9
  ⟨year + cycle * 400 + (if month ≤ 2 then 1 else 0), month.toNat,
    (dayOfYear - (153 * monthFromMarch + 2) / 5 + 1).toNat⟩

end Date

/-- A moment in universal time. -/
structure Instant where
  /-- Seconds from the start of 1970. -/
  seconds : Int
  /-- Nanoseconds after that; from 1000000000 on the moment lies in a leap second. -/
  nanos : Nat
  deriving DecidableEq, Repr

/-- A number in decimal digits with zeros in front up to a width. -/
def padded (width n : Nat) : String :=
  let digits := toString n
  String.ofList (List.replicate (width - digits.length) '0') ++ digits

/-- The fraction of a second in as few groups of three digits as it needs. -/
def fractionText (nanos : Nat) : String :=
  if nanos = 0 then ""
  else if nanos % 1000000 = 0 then "." ++ padded 3 (nanos / 1000000)
  else if nanos % 1000 = 0 then "." ++ padded 6 (nanos / 1000)
  else "." ++ padded 9 nanos

/-- A year in four digits; one beyond them has its sign in front. -/
def yearText (year : Int) : String :=
  if 0 ≤ year && year ≤ 9999 then padded 4 year.toNat
  else (if year < 0 then "-" else "+") ++ padded 4 year.natAbs

/-- The text of an instant: date and time of day in universal time. -/
def Instant.text (instant : Instant) : String :=
  let date := Date.ofDays (instant.seconds / 86400)
  let secondOfDay := (instant.seconds % 86400).toNat
  let leap := instant.nanos / 1000000000
  s!"{yearText date.year}-{padded 2 date.month}-{padded 2 date.day}" ++
    s!"T{padded 2 (secondOfDay / 3600)}:{padded 2 (secondOfDay / 60 % 60)}:" ++
    padded 2 (secondOfDay % 60 + leap) ++ fractionText (instant.nanos % 1000000000) ++ "Z"

end ReleaseStaging.Calendar
