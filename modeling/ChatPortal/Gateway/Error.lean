import ChatPortal.Http.Message
import ChatPortal.Text.Boundary

/-!
# Why a call fails

A `GatewayError` is the reason for which a call fails, and `GatewayError.message` what the
user is told.  `GatewayError.ofStatus` is the reason when a server answers with an error
status and no envelope; it quotes the body, shortened to whole characters.
-/

namespace ChatPortal.Gateway

/-- The reason for which a call fails. -/
inductive GatewayError where
  | transport (reason : String)
  | timeout (millis : Nat)
  | business (code : Int) (message : String)
  | sessionExpired (code : Int) (message : String)
  | build (reason : String)
  | invalidResponse (reason : String)
deriving DecidableEq, Repr

namespace GatewayError

/-- What the user is told. -/
def message : GatewayError → String
  | .transport reason => reason
  | .timeout millis => "timeout of " ++ toString millis ++ "ms exceeded"
  | .business _ message => message
  | .sessionExpired _ message => message
  | .build reason => "Failed to build request: " ++ reason
  | .invalidResponse reason => "Invalid response: " ++ reason

/-- The code that the server sent. -/
def code? : GatewayError → Option Int
  | .business code _ => some code
  | .sessionExpired code _ => some code
  | _ => none

/-- The server answered with an envelope that reports an error. -/
def isBusiness : GatewayError → Bool
  | .business .. => true
  | .sessionExpired .. => true
  | _ => false

/-- The server does not honour the credential any more. -/
def isSessionExpired : GatewayError → Bool
  | .sessionExpired .. => true
  | _ => false

/-- No envelope came back. -/
def isTransport : GatewayError → Bool
  | .transport _ => true
  | .timeout _ => true
  | _ => false

/-- The number of bytes of a quoted body. -/
def maxQuoted : Nat := 500

/-- The front of a long body that is quoted. -/
def quoted? (body : Bytes) : Option (List Char) :=
  (Utf8.boundary? body maxQuoted).bind (Utf8.slice? body)

/-- A body as it is quoted: shortened, with its length, when it is long. -/
def shorten (body : List Char) : List Char :=
  let bytes := Utf8.encode body
  if bytes.length ≤ maxQuoted then
    body
  else
    (quoted? bytes).getD [] ++
      ("... (truncated, " ++ toString bytes.length ++ " total bytes)").toList

/-- The reason when a server answers with a status and a body that is no envelope. -/
def ofStatus (status : Http.Status) (body : List Char) : GatewayError :=
  .transport ("Status " ++ status.text ++ ": " ++ String.ofList (shorten body))

end GatewayError

end ChatPortal.Gateway
