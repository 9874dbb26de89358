import ChatPortal.Http.Exchange

/-!
# The link to the server

A client makes its calls over a `Link`: to replies that are kept ready, or over a network
to a server at a base address.  `Link.answer` is the reply to a call.
-/

namespace ChatPortal.Client

open Gateway Http

/-- Where calls go: to replies that are kept ready, or over a network, where a server
with replies may stand at the base or not. -/
inductive Link where
  | ready (replies : Replies)
  | network (base : String) (timeout : Nat) (server : Option Replies)

namespace Link

/-- The reply when none is kept ready. -/
def noReply (path : String) : Reply :=
  .unreachable ("no mock reply for " ++ path)

/-- The response of a server that has no reply ready. -/
def notFound : Response := { status := .notFound, body := bytesOf "no reply" }

/-- What comes of a reply to a call on its way over a network. -/
def overNetwork (timeout : Nat) (call : Call) (url : Url) (reply : Reply) : Reply :=
  match reply.arrival with
  | .ok response =>
    { reply with arrival := exchange timeout call.method url (.answers response) }
  | .error _ => reply

/-- The reply to a call, and the link after it. -/
def answer (call : Call) : Link → Reply × Link
  | .ready replies =>
    match replies.take? call.path with
    | some (reply, replies) => (reply, .ready replies)
    | none => (noReply call.path, .ready replies)
  | .network base timeout server =>
    match address base call, server with
    | .error e, _ => ({ arrival := .error e }, .network base timeout server)
    | .ok url, none =>
      ({ arrival := exchange timeout call.method url .refuses }, .network base timeout none)
    | .ok url, some replies =>
      match replies.take? (String.ofList url.place.text) with
      | some (reply, replies) =>
        (overNetwork timeout call url reply, .network base timeout (some replies))
      | none =>
        ({ arrival := exchange timeout call.method url (.answers notFound) },
          .network base timeout (some replies))

/-- Keeps one more reply ready for a path. -/
def add (path : String) (reply : Reply) : Link → Link
  | .ready replies => .ready (replies.add path reply)
  | .network base timeout server => .network base timeout (server.map (·.add path reply))

end Link

end ChatPortal.Client
