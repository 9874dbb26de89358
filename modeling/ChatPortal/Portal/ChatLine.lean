import ChatPortal.Calendar.Millis
import ChatPortal.Json.Decoder

/-!
# Lines of a chat

A `ChatLine` is something the bot says, with the time at which it said it in milliseconds
since the beginning of 1970.  `ChatLine.clock` is that time as a clock shows it, in UTC.
-/

namespace ChatPortal.Portal

/-- Something the bot says, and when. -/
structure ChatLine where
  content : String
  time : Int
deriving DecidableEq, Repr, Inhabited

namespace ChatLine

/-- A line in JSON. -/
def decoder : Json.Decoder ChatLine :=
  .record "ChatLine" ⟨"", 0⟩
    [ .needed "content" .string fun content line => { line with content },
      .needed "time" .int64 fun time line => { line with time } ]

/-- The JSON of a line. -/
def toJson (line : ChatLine) : Json :=
  .object [("content", .string line.content), ("time", .int line.time)]

/-- Two digits. -/
def twoDigits (n : Nat) : List Char :=
  [Char.ofNat (48 + n / 10), Char.ofNat (48 + n % 10)]

/-- The point of time at which the line was said. -/
def saidAt (line : ChatLine) : Except Calendar.Untold Calendar.Instant :=
  Calendar.Instant.ofMillis line.time

/-- The time is a point of time that can be told. -/
def isTimed (line : ChatLine) : Bool :=
  line.saidAt.isOk

/-- Hours and minutes of the time, or nothing when it cannot be told. -/
def clock (line : ChatLine) : String :=
  match line.saidAt with
  | .ok said =>
    let minutes := said.second / 60
    String.ofList (twoDigits (minutes / 60) ++ ':' :: twoDigits (minutes % 60))
  | .error _ => ""

end ChatLine

end ChatPortal.Portal
