import ChatPortal.Json.Decoder
import ChatPortal.Json.Printer

/-!
# Envelopes

Every answer of the server is an `Envelope`: a code, a message and the data asked for.
The code decides the `Outcome`.  The message stands under `msg` or `message` and need not
be a string; `Envelope.displayMessage` is never empty.
-/

namespace ChatPortal.Gateway

/-- What the code of an envelope says. -/
inductive Outcome where
  | success
  | accepted
  | businessError
  | sessionInvalid
deriving DecidableEq, Repr

/-- The codes of a server that does not honour the credential any more. -/
def sessionInvalidCodes : List Int := [50008, 50012, 50014]

/-- What a code says. -/
def Outcome.ofCode (code : Int) : Outcome :=
  if code = 0 then .success
  else if code = 1 then .accepted
  else if code ∈ sessionInvalidCodes then .sessionInvalid
  else .businessError

/-- A code, a message and data. -/
structure Envelope where
  code : Int
  message : String
  data : Json

namespace Envelope

/-- An envelope with its two messages as they stand in the text. -/
structure Raw where
  code : Int
  msg : Json
  message : Json
  data : Json

/-- What stands in an envelope. -/
def Raw.fields : List (Json.Field Raw) :=
  [ .needed "code" .int64 fun code e => { e with code },
    .optional "msg" .json fun msg e => { e with msg },
    .optional "message" .json fun message e => { e with message },
    .optional "data" .json fun data e => { e with data } ]

/-- An envelope in JSON. -/
def Raw.decoder : Json.Decoder Raw :=
  .record "RawEnvelope" ⟨0, .null, .null, .null⟩ Raw.fields

/-- The text of a message, unless there is none: a string itself, any other value in
JSON. -/
def messageText? : Json → Option String
  | .null => none
  | .string s => if s = "" then none else some s
  | v => some v.text

/-- The envelope with the first message that has a text. -/
def ofRaw (raw : Raw) : Envelope :=
  ⟨raw.code, ((messageText? raw.msg).orElse fun _ => messageText? raw.message).getD "",
    raw.data⟩

/-- The envelope in the body of a response. -/
def parse (body : Bytes) : Except Json.Failure Envelope :=
  (Raw.decoder.decode body).map ofRaw

/-- What the code says. -/
def outcome (envelope : Envelope) : Outcome := .ofCode envelope.code

/-- The message for the user. -/
def displayMessage (envelope : Envelope) : String :=
  if envelope.message = "" then "Error" else envelope.message

/-- The body that a server sends for a code, a message and data. -/
def body (code : Int) (message : String) (data : Json) : Bytes :=
  bytesOf (Json.object [("code", .int code), ("data", data), ("msg", .string message)]).text

end Envelope

end ChatPortal.Gateway
