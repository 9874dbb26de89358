import ChatPortal.Gateway.Envelope
import ChatPortal.Gateway.Error

/-!
# Replies

A `Reply` is what comes back for a call, and how long it takes.  `Replies` are kept ready
for calls that will come; the replies for one path are given in the order in which they
were added.
-/

namespace ChatPortal.Gateway

/-- A response, or the reason for which there is none. -/
abbrev Arrival := Except GatewayError Http.Response

/-- What comes back for a call, and after how many milliseconds. -/
structure Reply where
  arrival : Arrival
  delay : Nat := 0

namespace Reply

/-- A response that comes at once. -/
def ofResponse (response : Http.Response) : Reply := { arrival := .ok response }

/-- A reply with an envelope. -/
def envelope (code : Int) (message : String) (data : Json) : Reply :=
  ofResponse { status := .ok, body := Envelope.body code message data }

/-- A reply with a status and a body; a status that there is not counts as the one of a
server that failed. -/
def ofStatus (code : Int) (body : Bytes) : Reply :=
  ofResponse { status := (Http.Status.ofCode? code).getD .serverError, body }

/-- No reply within a time. -/
def timeout (millis : Nat) : Reply := { arrival := .error (.timeout millis) }

/-- No connection. -/
def unreachable (reason : String) : Reply := { arrival := .error (.transport reason) }

/-- The reply with a header field, if it is a response. -/
def withHeader (name value : String) (reply : Reply) : Reply :=
  { reply with arrival := reply.arrival.map (·.withHeader name value) }

end Reply

/-- Replies that are kept ready, each for a path. -/
abbrev Replies := List (String × Reply)

namespace Replies

/-- Adds a reply for a path behind the others. -/
def add (path : String) (reply : Reply) (replies : Replies) : Replies :=
  replies ++ [(path, reply)]

/-- The first reply for a path, and the replies without it. -/
def take? (path : String) : Replies → Option (Reply × Replies)
  | [] => none
  | (p, reply) :: replies =>
    if p = path then some (reply, replies)
    else (take? path replies).map fun (found, rest) => (found, (p, reply) :: rest)

end Replies

end ChatPortal.Gateway
