import ChatPortal.Calendar.Instant

/-!
# Points of time counted in milliseconds

`Instant.ofMillis` is the point of time some number of milliseconds after the beginning of
1970.  It is told in steps, through the seconds, the day and the year of the day; each step
is made on the integers of a `Width`, and one whose result is none of them ends in an
overflow.
-/

namespace ChatPortal.Calendar

/-- The reason for which no point of time is told. -/
inductive Untold where
  /-- The result of a step does not fit into its width. -/
  | overflow
  /-- Points of time are told on no such day, or at no such time of a day. -/
  | outOfRange
deriving DecidableEq, Repr

/-! ### Steps -/

/-- The width of a step: signed integers of 64 or of 32 bits, or natural numbers of 32 bits. -/
inductive Width where
  | int64
  | int32
  | nat32
deriving DecidableEq, Repr

namespace Width

/-- The least integer of a width. -/
def least : Width → Int
  | int64 => -0x8000000000000000
  | int32 => -0x80000000
  | nat32 => 0

/-- The greatest integer of a width. -/
def greatest : Width → Int
  | int64 => 0x7FFFFFFFFFFFFFFF
  | int32 => 0x7FFFFFFF
  | nat32 => 0xFFFFFFFF

/-- The integer fits into the width. -/
def holds (width : Width) (n : Int) : Bool :=
  width.least ≤ n && n ≤ width.greatest

/-- The result of a step, if it fits. -/
def fit (width : Width) (n : Int) : Except Untold Int :=
  if width.holds n then .ok n else .error .overflow

/-- The quotient by a positive integer, rounded down: it is rounded towards zero first, and
lowered if something negative is left over. -/
def quotient (width : Width) (n d : Int) : Except Untold Int := do
  let q ← width.fit (n.tdiv d)
  if n.tmod d < 0 then width.fit (q - 1) else .ok q

/-- What the quotient by a positive integer, rounded down, leaves over. -/
def remainder (width : Width) (n d : Int) : Except Untold Int := do
  let r ← width.fit (n.tmod d)
  if r < 0 then width.fit (r + d) else .ok r

end Width

/-! ### Days of years -/

/-- A year and one of its days, counted from one. -/
structure YearDay where
  year : Int
  day : Int
deriving DecidableEq, Repr

/-- The number of leap days in an era of 400 years before one of its years. -/
def leapDays (year : Int) : Int :=
  (year + 3) / 4 - (year + 99) / 100 + (year + 399) / 400

/-- The number of days of a year. -/
def yearLength (year : Int) : Int :=
  if isLeap year then 366 else 365

namespace YearDay

/-- The year within its era and the day of the year, for a day of an era of 400 years.  If the
leap days push the day back it is one of the year before. -/
def ofEraDay (day : Int) : Except Untold YearDay := do
  let year := day / 365
  let rest := day % 365
  if rest < leapDays year then
    let year ← Width.nat32.fit (year - 1)
    let rest ← Width.nat32.fit (rest + (← Width.nat32.fit (365 - leapDays year)))
    return ⟨year, ← Width.nat32.fit (rest + 1)⟩
  else
    let rest ← Width.nat32.fit (rest - leapDays year)
    return ⟨year, ← Width.nat32.fit (rest + 1)⟩

/-- The day is one of its year, and points of time are told in that year. -/
def isTold (date : YearDay) : Bool :=
  firstYear ≤ date.year && date.year ≤ lastYear &&
    1 ≤ date.day && date.day ≤ yearLength date.year

/-- The year and the day of the year, for a day counted from the last one before the year 1.  An
era begins with the year 0. -/
def ofCommonDay (day : Int) : Except Untold YearDay := do
  let day := day + 365
  if !Width.int32.holds day then
    .error .outOfRange
  else
    let era ← Width.int32.quotient day 146097
    let date ← ofEraDay (← Width.int32.remainder day 146097)
    let date : YearDay :=
      ⟨← Width.int32.fit ((← Width.int32.fit (era * 400)) + date.year), date.day⟩
    if date.isTold then .ok date else .error .outOfRange

/-- The days from the first of January 1970 to the day. -/
def toDays (date : YearDay) : Int :=
  Date.toDays ⟨date.year, 1, 1⟩ + date.day - 1

end YearDay

/-! ### Points of time -/

namespace Instant

/-- The seconds are those of a day, and only the last second of a minute is a leap second. -/
def isTimeOfDay (second nano : Nat) : Bool :=
  second < 86400 && nano < 2000000000 && (nano < 1000000000 || second % 60 == 59)

/-- The point of time some number of seconds after the beginning of 1970, and some
nanoseconds later. -/
def ofSeconds (seconds nano : Int) : Except Untold Instant := do
  let day ← Width.int64.fit ((← Width.int64.quotient seconds 86400) + 719163)
  let second ← Width.int64.remainder seconds 86400
  if !Width.int32.holds day then
    .error .outOfRange
  else
    let date ← YearDay.ofCommonDay day
    if isTimeOfDay second.toNat nano.toNat then
      .ok ⟨date.toDays, second.toNat, nano.toNat⟩
    else
      .error .outOfRange

/-- The point of time some number of milliseconds after the beginning of 1970. -/
def ofMillis (millis : Int) : Except Untold Instant := do
  let seconds ← Width.int64.quotient millis 1000
  let nano ← Width.nat32.fit ((← Width.int64.remainder millis 1000) * 1000000)
  ofSeconds seconds nano

end Instant

end ChatPortal.Calendar
