import ChatPortal.Calendar.Date
import ChatPortal.Text.Blank

/-!
# Points of time

An `Instant` is a day and a time of that day, in UTC.  `Instant.parse` reads a date and a
time with an offset (`2024-01-02T03:04:05.5+01:00`), with blanks allowed around the
numbers; `Instant.render` writes it, in UTC, with as many digits of a second as are
needed in groups of three.
-/

namespace ChatPortal.Calendar

/-- A point of time: the days since the first of January 1970, the seconds of the day and
the nanoseconds of the second, a thousand million and more in a leap second. -/
structure Instant where
  days : Int
  second : Nat
  nano : Nat
deriving DecidableEq, Repr

namespace Instant

/-- The reason for which a text is no point of time. -/
inductive Malformed where
  | outOfRange
  | impossible
  | invalid
  | tooShort
  | tooLong
deriving DecidableEq, Repr

/-- The wording of the reason. -/
def Malformed.message : Malformed → String
  | .outOfRange => "input is out of range"
  | .impossible => "no possible date and time matching input"
  | .invalid => "input contains invalid characters"
  | .tooShort => "premature end of input"
  | .tooLong => "trailing input"

/-- A number read off the front of a text, with what is left. -/
abbrev Step (α : Type) := Except Malformed (α × List Char)

/-- The value of a decimal digit. -/
def digit? (c : Char) : Option Nat :=
  if '0' ≤ c ∧ c ≤ '9' then some (c.toNat - '0'.toNat) else none

/-- Appends up to `width` digits from the front of a text to a number, and counts them. -/
def takeDigits : (width : Nat) → Nat → List Char → Nat × Nat × List Char
  | 0, n, text => (n, 0, text)
  | _ + 1, n, [] => (n, 0, [])
  | width + 1, n, c :: text =>
    match digit? c with
    | some d =>
      let (n, count, rest) := takeDigits width (n * 10 + d) text
      (n, count + 1, rest)
    | none => (n, 0, c :: text)

/-- Reads a number of one to `width` digits. -/
def readNumber (width : Nat) (text : List Char) : Step Nat :=
  match text, takeDigits width 0 text with
  | [], _ => .error .tooShort
  | _, (_, 0, _) => .error .invalid
  | _, (n, _, rest) => if n < 0x8000000000000000 then .ok (n, rest) else .error .outOfRange

/-- Reads a number between two bounds, after blanks. -/
def readField (width low high : Nat) (text : List Char) : Step Nat :=
  match readNumber width (Text.trimFront text) with
  | .error e => .error e
  | .ok (n, rest) => if low ≤ n ∧ n ≤ high then .ok (n, rest) else .error .outOfRange

/-- Reads the given character, after blanks. -/
def readMark (mark : Char) (text : List Char) : Except Malformed (List Char) :=
  match Text.trimFront text with
  | [] => .error .tooShort
  | c :: rest => if c = mark then .ok rest else .error .invalid

/-- Reads a year: up to four digits, or any number of them after a sign. -/
def readYear (text : List Char) : Step Int :=
  let text := Text.trimFront text
  let checked (sign : Int) (step : Step Nat) : Step Int :=
    match step with
    | .error e => .error e
    | .ok (n, rest) =>
      let year := sign * n
      if -0x80000000 ≤ year ∧ year < 0x80000000 then .ok (year, rest) else .error .outOfRange
  match text with
  | '-' :: rest => checked (-1) (readNumber rest.length rest)
  | '+' :: rest => checked 1 (readNumber rest.length rest)
  | _ => checked 1 (readNumber 4 text)

/-- Reads the fraction of a second as nanoseconds, if a point stands there; digits after
the ninth are passed over. -/
def readFraction (text : List Char) : Step Nat :=
  match text with
  | '.' :: rest =>
    match rest, takeDigits 9 0 rest with
    | [], _ => .error .tooShort
    | _, (_, 0, _) => .error .invalid
    | _, (n, count, rest) =>
      .ok (n * Nat.pow 10 (9 - count), rest.dropWhile fun c => (digit? c).isSome)
  | _ => .ok (0, text)

/-- Reads the sign of an offset, and whether it is negative. -/
def readSign : List Char → Step Bool
  | [] => .error .tooShort
  | c :: rest =>
    if c = '+' then .ok (false, rest)
    else if c = '-' ∨ c = '−' then .ok (true, rest)
    else .error .invalid

/-- The number of bytes of a text. -/
def byteCount (text : List Char) : Nat :=
  text.foldr (fun c size => c.utf8Size + size) 0

/-- Reads the two digits of the hours of an offset. -/
def readHours (text : List Char) : Step Nat :=
  if byteCount text < 2 then
    .error .tooShort
  else
    match text with
    | c :: d :: rest =>
      match digit? c, digit? d with
      | some c, some d => .ok (c * 10 + d, rest)
      | _, _ => .error .invalid
    | _ => .error .invalid

/-- Reads the two digits of the minutes of an offset. -/
def readMinutes (text : List Char) : Step Nat :=
  if byteCount text < 2 then
    .error .tooShort
  else
    match text with
    | c :: d :: rest =>
      match digit? c, digit? d with
      | some c, some d => if c < 6 then .ok (c * 10 + d, rest) else .error .outOfRange
      | _, _ => .error .invalid
    | _ => .error .invalid

/-- Reads an offset from UTC in seconds: `Z`, `UTC`, or hours and minutes with a sign. -/
def readOffset (text : List Char) : Step Int :=
  let text := Text.trimFront text
  match text with
  | c :: rest =>
    if (text.take 3).map Char.toUpper = ['U', 'T', 'C'] then .ok (0, text.drop 3)
    else if c = 'Z' ∨ c = 'z' then .ok (0, rest)
    else
      match readSign text with
      | .error e => .error e
      | .ok (negative, rest) =>
        match readHours rest with
        | .error e => .error e
        | .ok (hours, rest) =>
          match readMinutes (rest.dropWhile fun c => c == ':' || Text.isBlank c) with
          | .error e => .error e
          | .ok (minutes, rest) =>
            let seconds : Int := hours * 3600 + minutes * 60
            .ok (if negative then -seconds else seconds, rest)
  | [] => .error .tooShort

/-- The letter or blank between date and time. -/
def readSeparator : List Char → Except Malformed (List Char)
  | [] => .error .tooShort
  | c :: rest => if c = 'T' ∨ c = 't' ∨ c = ' ' then .ok rest else .error .invalid

/-- The point of time at which clocks with the given offset show a date and a time. -/
def ofLocal (date : Date) (hour minute second nano : Nat) (offset : Int) :
    Except Malformed Instant :=
  if !date.isValid || offset ≤ -86400 || 86400 ≤ offset then
    .error .outOfRange
  else
    let (second, nano) := if second = 60 then (59, nano + 1000000000) else (second, nano)
    let total := date.toDays * 86400 + (hour * 3600 + minute * 60 + second : Nat) - offset
    let days := total / 86400
    if inRange days then .ok ⟨days, (total % 86400).toNat, nano⟩ else .error .impossible

/-- Reads a point of time. -/
def parse (text : List Char) : Except Malformed Instant := do
  let (year, rest) ← readYear text
  let rest ← readMark '-' rest
  let (month, rest) ← readField 2 1 12 rest
  let rest ← readMark '-' rest
  let (day, rest) ← readField 2 1 31 rest
  let rest ← readSeparator rest
  let (hour, rest) ← readField 2 0 23 rest
  let rest ← readMark ':' rest
  let (minute, rest) ← readField 2 0 59 rest
  let rest ← readMark ':' rest
  let (second, rest) ← readField 2 0 60 rest
  let (nano, rest) ← readFraction rest
  let (offset, rest) ← readOffset rest
  if Text.trimFront rest ≠ [] then
    .error .tooLong
  else
    ofLocal ⟨year, month, day⟩ hour minute second nano offset

/-- A number with zeros in front up to a width. -/
def padded (width n : Nat) : List Char :=
  let digits := Nat.toDigits 10 n
  List.replicate (width - digits.length) '0' ++ digits

/-- A year: four digits, or a sign and at least four digits outside the years 0 to
9999. -/
def renderYear (year : Int) : List Char :=
  if 0 ≤ year ∧ year ≤ 9999 then padded 4 year.toNat
  else (if year < 0 then '-' else '+') :: padded 4 year.natAbs

/-- The fraction of a second in groups of three digits. -/
def renderFraction (nano : Nat) : List Char :=
  if nano = 0 then []
  else if nano % 1000000 = 0 then '.' :: padded 3 (nano / 1000000)
  else if nano % 1000 = 0 then '.' :: padded 6 (nano / 1000)
  else '.' :: padded 9 nano

/-- The text of a point of time, in UTC. -/
def render (t : Instant) : List Char :=
  let date := Date.ofDays t.days
  renderYear date.year ++ '-' :: padded 2 date.month ++ '-' :: padded 2 date.day ++
    'T' :: padded 2 (t.second / 3600) ++ ':' :: padded 2 (t.second / 60 % 60) ++
    ':' :: padded 2 (t.second % 60 + t.nano / 1000000000) ++
    renderFraction (t.nano % 1000000000) ++ ['Z']

end Instant

end ChatPortal.Calendar
