import ChatPortal.Client.Journal
import ChatPortal.Client.Link
import ChatPortal.Reauth.Flow
import ChatPortal.Session.Basic

/-!
# The client of a portal

A `Client` makes calls for the session that it holds.  `Client.send` puts the credential
of the moment on a call; `Client.receive` judges what comes back, takes a new credential
from it, notifies the user of a failure, and asks for the prompt to sign in again when the
server does not honour the credential any more.  `judge` and `grant?` say what a reply
means; both look at the reply alone.
-/

namespace ChatPortal

open Gateway Http Reauth

/-- Where requests to restart the client go: to nobody, to somebody who has not yet read
the given number of them, or to somebody who has left. -/
inductive Client.Inbox where
  | absent
  | open (unread : Nat)
  | closed
deriving DecidableEq, Repr

/-- The inbox with one more request. -/
def Client.Inbox.request : Inbox → Inbox
  | .open unread => .open (unread + 1)
  | inbox => inbox

/-- The number of requests that nobody has read. -/
def Client.Inbox.unread : Inbox → Nat
  | .open unread => unread
  | _ => 0

/-- The inbox after everything in it was read. -/
def Client.Inbox.read : Inbox → Inbox
  | .open _ => .open 0
  | inbox => inbox

/-- A session, the prompt that guards it, and the link over which it makes its calls.  A
client that cannot wait shows no prompts. -/
structure Client where
  account : Account
  link : Client.Link
  flow : Flow := {}
  inbox : Client.Inbox := .open 0
  canWait : Bool := true
  now : Calendar.Instant := ⟨0, 0, 0⟩
  journal : Client.Journal := []

namespace Client

variable {α : Type}

/-- A client that has not done anything yet. -/
def fresh (account : Account) (link : Link) (now : Calendar.Instant) : Client :=
  { account, link, now }

/-- The credential of the moment. -/
def credential (client : Client) : String := client.account.session.credential

/-- The locale of the moment. -/
def locale (client : Client) : String := client.account.session.locale

/-- Somebody is signed in. -/
def isSignedIn (client : Client) : Bool := client.account.session.isSignedIn

/-- Adds an entry to the journal. -/
def note (entry : Entry) (client : Client) : Client :=
  { client with journal := client.journal ++ [entry] }

/-- The client with another credential. -/
def hold (credential : String) (client : Client) : Client :=
  { client with account := client.account.setCredential client.now credential }

/-- Sets the credential. -/
def setCredential (credential : String) (client : Client) : Client :=
  (client.hold credential).note (.assigned credential)

/-- Sets the locale. -/
def setLocale (locale : String) (client : Client) : Client :=
  { client with account := client.account.setLocale locale }

/-- Keeps one more reply ready for a path. -/
def addReply (path : String) (reply : Reply) (client : Client) : Client :=
  { client with link := client.link.add path reply }

/-! ### The prompt -/

/-- Asks for the prompt; returns whether it was accepted.  There is none where nobody can
wait for it. -/
def trigger (client : Client) : Bool × Client :=
  let (accepted, flow) := client.flow.trigger client.canWait
  (accepted, { client with flow }.note (.triggered accepted))

/-- Shows a queued prompt in the locale of the moment. -/
def showPrompt (number : Nat) (client : Client) : Client :=
  match client.flow.show? number with
  | some flow => { client with flow }.note (.prompted (.inLocale client.locale))
  | none => client

/-- Requests a restart. -/
def requestRestart (client : Client) : Client :=
  { client with inbox := client.inbox.request }

/-- What follows from a prompt: if it is confirmed the credential is cleared and a restart
requested. -/
def obey (ending : Ending) (client : Client) : Client :=
  if ending.isConfirmed then (client.hold "").requestRestart else client

/-- Closes a prompt that is on show, after what follows from it is done. -/
def closePrompt (number : Nat) (ending : Ending) (client : Client) : Client :=
  match client.flow.close? number ending with
  | some flow => { client.obey ending with flow }.note (.closed ending)
  | none => client

/-- Takes the pending prompt, to wait for it. -/
def takePending (client : Client) : Option Nat × Client :=
  let (pending, flow) := client.flow.take
  (pending, { client with flow })

/-- Reads the requests to restart, and whether there were any. -/
def readInbox (client : Client) : Nat × Client :=
  (client.inbox.unread, { client with inbox := client.inbox.read })

/-! ### Calls -/

/-- The reason for which a credential cannot be put on a call. -/
def unsendable : GatewayError :=
  .build "invalid credential header: failed to parse header value"

/-- The call with the credential of the moment. -/
def prepare (call : Call) (client : Client) : Except GatewayError Call :=
  if client.credential = "" then
    .ok call
  else if isSendable client.credential then
    .ok { call with headers := call.headers.set Headers.authorization (bytesOf client.credential) }
  else
    .error unsendable

/-- Sends a call, and returns the reply that will come. -/
def send (call : Call) (client : Client) : Except GatewayError Reply × Client :=
  match client.prepare call with
  | .error e => (.error e, client)
  | .ok call =>
    let (reply, link) := client.link.answer call
    (.ok reply, { client with link }.note (.sent call))

/-- What an envelope says to somebody who wants data of a certain type. -/
def judgeEnvelope (decoder : Json.Decoder α) (envelope : Envelope) : Except GatewayError α :=
  match envelope.outcome with
  | .businessError => .error (.business envelope.code envelope.displayMessage)
  | .sessionInvalid => .error (.sessionExpired envelope.code envelope.displayMessage)
  | _ => (decoder.ofValue envelope.data).mapError (.invalidResponse ·.message)

/-- What a reply says to somebody who wants data of a certain type. -/
def judge (decoder : Json.Decoder α) : Arrival → Except GatewayError α
  | .error e => .error e
  | .ok response =>
    match Envelope.parse response.body with
    | .ok envelope => judgeEnvelope decoder envelope
    | .error failure =>
      if response.status.isSuccess then
        .error (.invalidResponse (failure.message response.body))
      else
        .error (.ofStatus response.status (Utf8.decodeLossy response.body))

/-- The credential that a reply grants: the one on a reply with code 0. -/
def grant? : Arrival → Option String
  | .error _ => none
  | .ok response =>
    match Envelope.parse response.body with
    | .ok envelope =>
      if envelope.outcome = .success then
        response.headers.credential?.filter (· != "")
      else
        none
    | .error _ => none

/-- A reply revokes the credential: the server does not honour it any more. -/
def revokes : Arrival → Bool
  | .error _ => false
  | .ok response =>
    match Envelope.parse response.body with
    | .ok envelope => envelope.outcome = .sessionInvalid
    | .error _ => false

/-- Takes the credential that a reply grants. -/
def accept (arrival : Arrival) (client : Client) : Client :=
  match grant? arrival with
  | some credential => client.hold credential
  | none => client

/-- Notifies the user of a failure. -/
def report (result : Except GatewayError α) (client : Client) : Client :=
  match result with
  | .ok _ => client
  | .error e => client.note (.notified (.error e.message))

/-- Asks for the prompt if a reply revokes the credential. -/
def heed (arrival : Arrival) (client : Client) : Client :=
  if revokes arrival then client.trigger.2 else client

/-- Receives a reply. -/
def receive (decoder : Json.Decoder α) (arrival : Arrival) (client : Client) :
    Except GatewayError α × Client :=
  let result := judge decoder arrival
  let client := (client.note (.received arrival)).accept arrival
  (result, (client.report result).heed arrival)

/-- Sends a call and receives its reply. -/
def call (decoder : Json.Decoder α) (call : Call) (client : Client) :
    Except GatewayError α × Client :=
  match client.send call with
  | (.error e, client) => (.error e, client)
  | (.ok reply, client) => client.receive decoder reply.arrival

end Client

end ChatPortal
