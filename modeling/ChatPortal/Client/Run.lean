import ChatPortal.Client.Endpoints

/-!
# Runs of a client

A client may wait for several replies at once.  A `Run` is a client with its calls that
are under way, and an `Event` is one thing that happens to it: a call is sent or its reply
received, a prompt is asked for, shown, closed or taken, the requests to restart are read,
or somebody sets the credential or the locale.  `Run.after` is the run after some events in
any order.
-/

namespace ChatPortal.Client

open Gateway Http Portal Reauth

/-- The type of the data that somebody wants. -/
inductive Wanted where
  | value
  | options
  | detail
  | lines
deriving DecidableEq, Repr

/-- The data that a call brings. -/
inductive Payload where
  | value (v : Json)
  | options (items : List SchemaOption)
  | detail (detail : SchemaDetail)
  | lines (items : List ChatLine)

/-- The data of a wanted type in JSON. -/
def Wanted.decoder : Wanted → Json.Decoder Payload
  | .value => Json.Decoder.json.map .value
  | .options => (Json.Decoder.list SchemaOption.decoder).map .options
  | .detail => SchemaDetail.decoder.map .detail
  | .lines => (Json.Decoder.list ChatLine.decoder).map .lines

/-- The result of a call. -/
abbrev Result := Except GatewayError Payload

/-- A call that was sent: the data that it is for and the reply that will come. -/
structure Flight where
  wanted : Wanted
  reply : Reply

/-- A client with all calls that it has sent, by number, and the results of those that
have come to an end, by number and in the order in which they did. -/
structure Run where
  client : Client
  flights : List Flight := []
  results : List (Nat × Result) := []

/-- One thing that happens. -/
inductive Event where
  | addReply (path : String) (reply : Reply)
  | send (call : Call) (wanted : Wanted)
  | arrive (number : Nat)
  | trigger
  | showPrompt (number : Nat)
  | closePrompt (number : Nat) (ending : Ending)
  | takePending
  | readInbox
  | setCredential (credential : String)
  | setLocale (locale : String)

namespace Run

/-- The result of a call that has come to an end. -/
def result? (number : Nat) (run : Run) : Option Result :=
  run.results.lookup number

/-- Sends a call; it gets the next number unless it cannot be sent. -/
def send (call : Call) (wanted : Wanted) (run : Run) : Except GatewayError Nat × Run :=
  match run.client.send call with
  | (.error e, client) => (.error e, { run with client })
  | (.ok reply, client) =>
    (.ok run.flights.length, { run with client, flights := run.flights ++ [⟨wanted, reply⟩] })

/-- Receives the reply to a call. -/
def arrive (number : Nat) (run : Run) : Run :=
  match run.flights[number]?, run.result? number with
  | some flight, none =>
    let (result, client) := run.client.receive flight.wanted.decoder flight.reply.arrival
    { run with client, results := run.results ++ [(number, result)] }
  | _, _ => run

/-- The run after one more thing has happened. -/
def step (run : Run) : Event → Run
  | .addReply path reply => { run with client := run.client.addReply path reply }
  | .send call wanted => (run.send call wanted).2
  | .arrive number => run.arrive number
  | .trigger => { run with client := run.client.trigger.2 }
  | .showPrompt number => { run with client := run.client.showPrompt number }
  | .closePrompt number ending => { run with client := run.client.closePrompt number ending }
  | .takePending => { run with client := run.client.takePending.2 }
  | .readInbox => { run with client := run.client.readInbox.2 }
  | .setCredential credential => { run with client := run.client.setCredential credential }
  | .setLocale locale => { run with client := run.client.setLocale locale }

/-- The run after some things have happened. -/
def after (run : Run) (events : List Event) : Run := events.foldl step run

end Run

end ChatPortal.Client
