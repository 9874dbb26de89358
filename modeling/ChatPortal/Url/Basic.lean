import ChatPortal.Url.Host
import ChatPortal.Url.Path

/-!
# URLs

A `Url` is a scheme with a path, perhaps on a host, and perhaps a query and a fragment,
each escaped as it is written.  `Url.text` writes it, and `Url.target` the part of it that
is asked of its host.
-/

namespace ChatPortal

/-- The part of a URL that names a host; `host` is `none` where its place is empty. -/
structure Url.Authority where
  user : List Char := []
  password : List Char := []
  host : Option Url.Host := none
  port : Option Nat := none
deriving DecidableEq, Repr

/-- Where a URL leads to: along segments, or to something with a name of its own. -/
inductive Url.Place where
  | path (segments : List (List Char))
  | name (text : List Char)
deriving DecidableEq, Repr

/-- A URL. -/
structure Url where
  scheme : List Char
  authority : Option Url.Authority
  place : Url.Place
  query : Option (List Char) := none
  fragment : Option (List Char) := none
deriving DecidableEq, Repr

namespace Url

/-- The schemes of the web with their ports. -/
def webSchemes : List (String × Nat) :=
  [("http", 80), ("https", 443), ("ws", 80), ("wss", 443), ("ftp", 21)]

/-- How a scheme treats its URLs. -/
def Kind.ofScheme (scheme : List Char) : Kind :=
  if (webSchemes.map (·.1.toList)).contains scheme then .web
  else if scheme = "file".toList then .file
  else .other

/-- The port that a scheme uses where none is given. -/
def defaultPort? (scheme : List Char) : Option Nat :=
  webSchemes.lookup (String.ofList scheme)

/-- The text of where a URL leads to. -/
def Place.text : Place → List Char
  | .path segments => Path.text segments
  | .name text => text

/-- The name and password before a host, with the sign that ends them. -/
def Authority.userText (authority : Authority) : List Char :=
  if authority.user = [] ∧ authority.password = [] then []
  else if authority.password = [] then authority.user ++ ['@']
  else authority.user ++ ':' :: (authority.password ++ ['@'])

/-- The port, with the sign that begins it. -/
def Authority.portText (authority : Authority) : List Char :=
  match authority.port with
  | none => []
  | some port => ':' :: Nat.toDigits 10 port

/-- The text of the part that names a host. -/
def Authority.text (authority : Authority) : List Char :=
  authority.userText ++ ((authority.host.map Host.text).getD [] ++ authority.portText)

/-- A part of a URL that may be missing, with the sign that begins it. -/
def part (mark : Char) : Option (List Char) → List Char
  | none => []
  | some text => mark :: text

/-- The URL has a host. -/
def hasHost (url : Url) : Bool :=
  (url.authority.bind (·.host)).isSome

/-- The path with the query. -/
def target (url : Url) : List Char :=
  url.place.text ++ part '?' url.query

/-- The text between the scheme and the path.  A path that begins with two slashes is set
off where there is no host. -/
def lead (url : Url) : List Char :=
  match url.authority, url.place with
  | some authority, _ => '/' :: '/' :: authority.text
  | none, .path ([] :: _ :: _) => ['/', '.']
  | none, _ => []

/-- The text of a URL. -/
def text (url : Url) : List Char :=
  url.scheme ++ ':' :: (url.lead ++ (url.target ++ part '#' url.fragment))

/-- The text that an escaped text stands for, if it is UTF-8. -/
def unescape? (text : List Char) : Option (List Char) :=
  Utf8.decode? (unescape (Utf8.encode text))

/-- The name and password say who calls: the name can be unescaped, and it is not empty,
or the password is not and can be unescaped. -/
def Authority.isPersonal (authority : Authority) : Bool :=
  match unescape? authority.user, unescape? authority.password with
  | none, _ => false
  | some name, password => name != [] || (authority.password != [] && password.isSome)

/-- The authority without a name and password that say who calls. -/
def Authority.anonymous (authority : Authority) : Authority :=
  if authority.isPersonal then { authority with user := [], password := [] } else authority

/-- The URL without a name and password that say who calls. -/
def anonymous (url : Url) : Url :=
  { url with authority := url.authority.map Authority.anonymous }

/-- The URL with more pairs in its query. -/
def addPairs (pairs : List (String × String)) (url : Url) : Url :=
  if pairs = [] then url
  else
    match url.query with
    | none => { url with query := some (formEncode pairs) }
    | some [] => { url with query := some (formEncode pairs) }
    | some query => { url with query := some (query ++ '&' :: formEncode pairs) }

/-- The pairs in the query. -/
def pairs (url : Url) : List (String × String) :=
  formDecode (url.query.getD [])

end Url

end ChatPortal
