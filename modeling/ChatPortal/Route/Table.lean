import ChatPortal.Json.Decoder
import ChatPortal.Url.Reference

/-!
# Routes

A `Route` is a place in the client with a path of its own; it may need a signed-in user.
A `Target` is a route together with the pairs of a query.  `Target.fullPath` writes a
target as a path with a query, and `RouteTable.resolve?` reads it back for the routes of a
table.
-/

namespace ChatPortal

/-- A named place in the client. -/
structure Route where
  name : String
  path : String
  needsSession : Bool
deriving DecidableEq, Repr, Inhabited

/-- A route and the pairs of a query. -/
structure Target where
  name : String
  path : String
  query : List (String × String)
  needsSession : Bool
deriving DecidableEq, Repr, Inhabited

namespace Route

/-- The wish for a signed-in user in JSON. -/
def metaDecoder : Json.Decoder Bool :=
  .record "RouteMeta" false [.optional "login" .bool fun needsSession _ => needsSession]

/-- A route in JSON. -/
def decoder : Json.Decoder Route :=
  .record "RouteDescriptor" ⟨"", "", false⟩
    [ .needed "name" .string fun name r => { r with name },
      .needed "path" .string fun path r => { r with path },
      .optional "meta" metaDecoder fun needsSession r => { r with needsSession } ]

/-- The JSON of a route. -/
def toJson (route : Route) : Json :=
  .object
    [ ("meta", .object [("login", .bool route.needsSession)]), ("name", .string route.name),
      ("path", .string route.path) ]

/-- The route without a query. -/
def target (route : Route) : Target :=
  ⟨route.name, route.path, [], route.needsSession⟩

end Route

namespace Target

/-- The target with one more pair in its query. -/
def withPair (key value : String) (target : Target) : Target :=
  { target with query := target.query ++ [(key, value)] }

/-- The first value of a key in the query. -/
def value? (key : String) (target : Target) : Option String :=
  target.query.lookup key

/-- The path with the query, as a URL has it. -/
def fullPath (target : Target) : String :=
  let query := if target.query = [] then none else some (Url.formEncode target.query)
  String.ofList (Url.Path.normal target.path.toList ++ Url.part '?' query)

end Target

/-- The routes of the client, with the one to sign in and the one to begin with. -/
structure RouteTable where
  routes : List Route
  signIn : Route
  home : Route
deriving DecidableEq, Repr, Inhabited

namespace RouteTable

/-- The name of the route that is home. -/
def portalName : String := "Portal"

/-- The name of the route to sign in. -/
def signName : String := "Sign"

/-- The route with a name; of several the first counts. -/
def route? (routes : List Route) (name : String) : Option Route :=
  routes.find? (·.name == name)

/-- A name that is not in a table. -/
structure Missing where
  name : String
deriving DecidableEq, Repr

/-- What is said about a missing name. -/
def Missing.message (missing : Missing) : String :=
  "route table has no route named " ++ missing.name

/-- The table of some routes, if the two that it needs are among them. -/
def ofRoutes (routes : List Route) (signIn home : String) : Except Missing RouteTable :=
  match route? routes signIn, route? routes home with
  | none, _ => .error ⟨signIn⟩
  | some _, none => .error ⟨home⟩
  | some signIn, some home => .ok ⟨routes, signIn, home⟩

/-- The route of the portal, which needs a signed-in user. -/
def portalRoute : Route := ⟨portalName, "/", true⟩

/-- The route to sign in. -/
def signRoute : Route := ⟨signName, "/sign", false⟩

/-- The table that the client uses: the portal and the way into it. -/
def standard : RouteTable := ⟨[portalRoute, signRoute], signRoute, portalRoute⟩

/-- The URL against which paths are read. -/
def origin : Url :=
  { scheme := "http".toList
    authority := some { host := some (.domain "localhost".toList) }
    place := .path [[]] }

/-- The target that a path with a query leads to; of several routes with that path the
first counts. -/
def resolve? (table : RouteTable) (fullPath : String) : Option Target :=
  match Url.join? origin fullPath.toList with
  | none => none
  | some url =>
    (table.routes.find? (·.path.toList == url.place.text)).map fun route =>
      { route.target with query := url.pairs }

end RouteTable

end ChatPortal
