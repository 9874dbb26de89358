import ChatPortal.Http.Header
import ChatPortal.Http.Status
import ChatPortal.Json.Printer

/-!
# Calls and responses

A `Call` is what the client asks a server for, a `Response` what comes back, both before
anybody has looked at what their bodies say.
-/

namespace ChatPortal.Http

/-- A method, path, query and JSON body, and header fields. -/
structure Call where
  method : String
  path : String
  query : List (String × String) := []
  body : Option Json := none
  headers : Headers := []

namespace Call

/-- Asks for what is found under a path. -/
def get (path : String) : Call := { method := "GET", path }

/-- Sends a JSON body to a path. -/
def post (path : String) (body : Json) : Call := { method := "POST", path, body := some body }

/-- The credential that the call carries, if it is visible ASCII. -/
def authorization (call : Call) : Option String := call.headers.credential?

/-- The call carries a credential. -/
def hasAuthorization (call : Call) : Bool :=
  (call.headers.get? Headers.authorization).isSome

end Call

/-- A status, header fields and a body. -/
structure Response where
  status : Status
  headers : Headers := []
  body : Bytes := []

/-- The text of the body. -/
def Response.text (response : Response) : String := lossyText response.body

/-- Adds a header field in place of those with the same name, if it can be sent. -/
def Response.withHeader (response : Response) (name value : String) : Response :=
  { response with headers := response.headers.offer name value }

end ChatPortal.Http
