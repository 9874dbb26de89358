/-!
# Dates

A `Date` is a day of the Gregorian calendar, extended to all years.  `Date.toDays` counts
the days from the first of January 1970 and `Date.ofDays` goes back; `inRange` are the
days of the years in which points of time are told.
-/

namespace ChatPortal.Calendar

/-- A year is a leap year. -/
def isLeap (year : Int) : Bool :=
  year % 4 == 0 && (year % 100 != 0 || year % 400 == 0)

/-- The number of days of a month. -/
def monthLength (year : Int) (month : Nat) : Nat :=
  if month == 2 then (if isLeap year then 29 else 28)
  else if month == 4 || month == 6 || month == 9 || month == 11 then 30
  else 31

/-- A year, a month and a day of the month. -/
structure Date where
  year : Int
  month : Nat
  day : Nat
deriving DecidableEq, Repr

/-- The days from the first of January 1970 to a date; the year is taken to begin in
March, so that a leap day is its last. -/
def Date.toDays (date : Date) : Int :=
  let year := if date.month ≤ 2 then date.year - 1 else date.year
  let era := year / 400
  let yearOfEra := year % 400
  let month : Int := (date.month + 9) % 12
  let dayOfYear := (153 * month + 2) / 5 + date.day - 1
  let dayOfEra := yearOfEra * 365 + yearOfEra / 4 - yearOfEra / 100 + dayOfYear
  era * 146097 + dayOfEra - 719468

/-- The date that many days after the first of January 1970. -/
def Date.ofDays (days : Int) : Date :=
  let days := days + 719468
  let era := days / 146097
  let dayOfEra := days % 146097
  let yearOfEra := (dayOfEra - dayOfEra / 1460 + dayOfEra / 36524 - dayOfEra / 146096) / 365
  let dayOfYear := dayOfEra - (365 * yearOfEra + yearOfEra / 4 - yearOfEra / 100)
  let shifted := (5 * dayOfYear + 2) / 153
  let day := dayOfYear - (153 * shifted + 2) / 5 + 1
  let month := if shifted < 10 then shifted + 3 else shifted - 9
  let year := yearOfEra + era * 400
  ⟨if month ≤ 2 then year + 1 else year, month.toNat, day.toNat⟩

/-- The first year in which points of time are told. -/
def firstYear : Int := -262143

/-- The last year in which points of time are told. -/
def lastYear : Int := 262142

/-- The date is a day of the calendar. -/
def Date.isValid (date : Date) : Bool :=
  firstYear ≤ date.year && date.year ≤ lastYear && 1 ≤ date.month && date.month ≤ 12 &&
    1 ≤ date.day && date.day ≤ monthLength date.year date.month

/-- The first day on which points of time are told. -/
def firstDay : Int := Date.toDays ⟨firstYear, 1, 1⟩

/-- The last day on which points of time are told. -/
def lastDay : Int := Date.toDays ⟨lastYear, 12, 31⟩

/-- Points of time are told on that day. -/
def inRange (days : Int) : Bool := firstDay ≤ days && days ≤ lastDay

end ChatPortal.Calendar
