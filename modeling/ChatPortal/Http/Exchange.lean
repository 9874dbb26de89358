import ChatPortal.Gateway.Reply
import ChatPortal.Url.Reference

/-!
# Calls over a network

A call goes to a URL that is put together from the base of a server and the path of the
call (`address`).  `Request.ofCall` is what the server gets to see, `Treatment` what it
does with it, and `exchange` what comes of that for the client.
-/

namespace ChatPortal.Http

open Gateway

/-! ### Addresses -/

/-- The text of the URL for a path at a base: one slash stands between them. -/
def addressText (base path : String) : List Char :=
  Text.dropBack '/' base.toList ++ '/' :: Text.dropFront '/' path.toList

/-- The reason for which a call cannot be built for a URL. -/
def unbuildable (url : Url) : GatewayError :=
  .transport ("builder error for url (" ++ String.ofList url.text ++ ")")

/-- The schemes over which calls are made. -/
def isCallScheme (scheme : List Char) : Bool :=
  scheme = "http".toList || scheme = "https".toList

/-- The characters that the name of a server may not hold. -/
def isUncallable (c : Char) : Bool :=
  "\"`\x7b\x7d".toList.contains c

/-- The most bytes that the text of a URL may have for a call. -/
def maxAddressLength : Nat := 65534

/-- A call can be made to a URL. -/
def isCallable (url : Url) : Bool :=
  isCallScheme url.scheme
    && !(url.authority.bind (·.host)).any (·.text.any isUncallable)
    && (Utf8.encode url.text).length ≤ maxAddressLength

/-- The URL of a call. -/
def address (base : String) (call : Call) : Except GatewayError Url :=
  match Url.parse? (addressText base call.path) with
  | none => .error (.transport "builder error")
  | some url =>
    if !url.hasHost then
      .error (unbuildable url)
    else
      let url := url.anonymous.addPairs call.query
      if isCallable url then .ok url else .error (unbuildable url)

/-! ### Requests and responses -/

/-- What a server gets to see of a call. -/
structure Request where
  method : String
  target : String
  authorization : Option String
  contentType : Option String
  body : String
deriving DecidableEq, Repr

/-- A value without the blanks around it, which are not part of it on the line. -/
def trimmed (value : Bytes) : Bytes :=
  let isSpace (b : UInt8) : Bool := b == 0x20 || b == 0x09
  ((value.dropWhile isSpace).reverse.dropWhile isSpace).reverse

/-- The request for a call at a URL. -/
def Request.ofCall (url : Url) (call : Call) : Request :=
  { method := call.method
    target := String.ofList url.target
    authorization :=
      (call.headers.get? Headers.authorization).map fun value => lossyText (trimmed value)
    contentType := call.body.map fun _ => "application/json"
    body := (call.body.map Json.text).getD "" }

/-- A response to a request has no body: only its head was asked for, or its status says
so. -/
def isBodiless (method : String) (status : Status) : Bool :=
  method = "HEAD" ∨ status.code = 204 ∨ status.code = 304

/-- The response to a request as it comes off the line. -/
def Response.received (method : String) (response : Response) : Response :=
  { response with
    headers := response.headers.map fun (name, value) => (name, trimmed value)
    body := if isBodiless method response.status then [] else response.body }

/-! ### What a server does -/

/-- What a server does with a request: it answers, leaves the client waiting, ends the
connection in the middle of an answer or before it, or takes no connection at all. -/
inductive Treatment where
  | answers (response : Response)
  | stalls
  | breaksOff
  | hangsUp
  | refuses

/-- The server gets to see the request. -/
def Treatment.isReached : Treatment → Bool
  | .refuses => false
  | _ => true

/-- What comes of a request with a method to a URL, for a client which waits for at most
`timeout` milliseconds. -/
def exchange (timeout : Nat) (method : String) (url : Url) : Treatment → Arrival
  | .answers response => .ok (response.received method)
  | .stalls => .error (.timeout timeout)
  | .breaksOff => .error (.transport "error decoding response body")
  | _ => .error (.transport ("error sending request for url (" ++ String.ofList url.text ++ ")"))

end ChatPortal.Http
