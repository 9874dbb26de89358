import ChatPortal.Client.Basic
import ChatPortal.Portal.ChatLine
import ChatPortal.Portal.Schema

/-!
# The calls that the portal understands

One function for each thing that the portal does: to sign in, to list the schemas, to
describe one, to begin a chat about it and to say something.
-/

namespace ChatPortal.Client

open Gateway Http Portal

/-- Where to sign in. -/
def signPath : String := "/api/auth/sign"

/-- Where the schemas are listed. -/
def optionPath : String := "/api/bot/portal/option"

/-- Where a schema is described. -/
def detailPath : String := "/api/bot/portal/detail"

/-- Where a chat begins. -/
def chatInitPath : String := "/api/bot/chat/init"

/-- Where a chat goes on. -/
def chatMessagePath : String := "/api/bot/chat/message"

/-- The call to sign in. -/
def signCall (username password : String) : Call :=
  .post signPath (.object [("pwd", .string password), ("username", .string username)])

/-- The call for the list of schemas. -/
def optionCall : Call := .get optionPath

/-- The call for a schema. -/
def detailCall (schema : String) : Call :=
  .post detailPath (.object [("schema", .string schema)])

/-- The call to begin a chat about a schema. -/
def chatInitCall (schema : String) : Call :=
  .post chatInitPath (.object [("schema", .string schema)])

/-- The call to say something in a chat. -/
def chatMessageCall (content : String) : Call :=
  .post chatMessagePath (.object [("content", .string content)])

/-- Signs in; the answer is whether there is a credential afterwards. -/
def signIn (username password : String) (client : Client) :
    Except GatewayError Bool × Client :=
  let (result, client) := client.call .json (signCall username password)
  (result.map fun _ => client.isSignedIn, client)

/-- Lists the schemas. -/
def fetchOptions (client : Client) : Except GatewayError (List SchemaOption) × Client :=
  client.call (.list SchemaOption.decoder) optionCall

/-- Describes a schema. -/
def fetchDetail (schema : String) (client : Client) :
    Except GatewayError SchemaDetail × Client :=
  client.call SchemaDetail.decoder (detailCall schema)

/-- Begins a chat about a schema; the answer is what the bot says first. -/
def beginChat (schema : String) (client : Client) :
    Except GatewayError (List ChatLine) × Client :=
  client.call (.list ChatLine.decoder) (chatInitCall schema)

/-- Says something in a chat; the answer is what the bot says to it. -/
def say (content : String) (client : Client) :
    Except GatewayError (List ChatLine) × Client :=
  client.call (.list ChatLine.decoder) (chatMessageCall content)

end ChatPortal.Client
