/-!
Instants as seconds since the first moment of 1970, and their civil texts in universal time. The
calendar is the Gregorian one, extended to all years.
-/

namespace IntentRollout

/-- Seconds since 1970 and the nanoseconds of that second; a billion nanoseconds or more lie in a leap
second after it. -/
structure Instant where
  seconds : Int
  nanos : Nat := 0
  deriving DecidableEq, Inhabited

namespace Instant

structure Civil where
  year : Int
  month : Nat
  day : Nat
  hour : Nat
  minute : Nat
  second : Nat
  deriving DecidableEq

/-- Year, month and day of a day counted from the first of March of the year zero. Years start in March
here, so that a leap day is the last of its year; four hundred years have 146097 days. -/
def dateOfDay (day : Int) : Int × Nat × Nat :=
  let era := day / 146097
  let dayOfEra := (day % 146097).toNat
  let yearOfEra := (dayOfEra - dayOfEra / 1460 + dayOfEra / 36524 - dayOfEra / 146096) / 365
  let dayOfYear := dayOfEra - (365 * yearOfEra + yearOfEra / 4 - yearOfEra / 100)
  let monthFromMarch := (5 * dayOfYear + 2) / 153
  let dayOfMonth := dayOfYear - (153 * monthFromMarch + 2) / 5 + 1
  let month := if monthFromMarch < 10 then monthFromMarch + 3 else monthFromMarch - 9
  let year := era * 400 + yearOfEra + (if month ≤ 2 then 1 else 0)
  (year, month, dayOfMonth)

def civil (instant : Instant) : Civil :=
  let date := dateOfDay (instant.seconds / 86400 + 719468)
  let second := (instant.seconds % 86400).toNat
  ⟨date.1, date.2.1, date.2.2, second / 3600, second / 60 % 60,
    second % 60 + (if 1000000000 ≤ instant.nanos then 1 else 0)⟩

/-- A number with leading zeros up to a width. -/
def padded (width value : Nat) : String :=
  let digits := Nat.toDigits 10 value
  String.ofList (List.replicate (width - digits.length) '0' ++ digits)

/-- Four digits; years before the year zero or after 9999 have a sign. -/
def yearText (year : Int) : String :=
  if 0 ≤ year ∧ year ≤ 9999 then padded 4 year.toNat
  else (if year < 0 then "-" else "+") ++ padded 4 year.natAbs

/-- Date and time with a `T` between them and a `Z` after them, to the second. -/
def text (instant : Instant) : String :=
  let civil := instant.civil
  yearText civil.year ++ "-" ++ padded 2 civil.month ++ "-" ++ padded 2 civil.day ++ "T" ++
    padded 2 civil.hour ++ ":" ++ padded 2 civil.minute ++ ":" ++ padded 2 civil.second ++ "Z"

/-- Date and time as digits with a low line between them: the name of what was made at the instant. -/
def stamp (instant : Instant) : String :=
  let civil := instant.civil
  yearText civil.year ++ padded 2 civil.month ++ padded 2 civil.day ++ "_" ++
    padded 2 civil.hour ++ padded 2 civil.minute ++ padded 2 civil.second

def after (instant : Instant) (milliseconds : Nat) : Instant :=
  let nanos := instant.nanos % 1000000000 + milliseconds * 1000000
  ⟨instant.seconds + (instant.nanos / 1000000000 + nanos / 1000000000 : Nat), nanos % 1000000000⟩

/-- Date and time to the millisecond. -/
def preciseText (instant : Instant) : String :=
  String.ofList (instant.text.toList.dropLast) ++ "." ++
    padded 3 (instant.nanos % 1000000000 / 1000000) ++ "Z"

end Instant

end IntentRollout
