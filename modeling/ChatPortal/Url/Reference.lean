import ChatPortal.Url.Basic

/-!
# Reading URLs

`Url.parse?` reads a whole URL.  `Url.join?` reads a reference as it stands on a page
whose own URL is known: what the reference leaves out is taken from there.  Blanks and
control characters around a text do not count, nor do tabs and line ends within it.
-/

namespace ChatPortal.Url

/-- A character that does not count at the ends of a text. -/
def isEdge (c : Char) : Bool := c.toNat ≤ 0x20

/-- The characters of a text that count. -/
def cleaned (text : List Char) : List Char :=
  (((text.dropWhile isEdge).reverse.dropWhile isEdge).reverse).filter (!Path.isIgnored ·)

/-- A text cut into what leads somewhere, the query and the fragment. -/
structure Sections where
  lead : List Char
  query : Option (List Char)
  fragment : Option (List Char)

/-- Cuts a text at the first `#` and then at the first `?`. -/
def Sections.ofText (text : List Char) : Sections :=
  let (front, fragment) := Text.cut '#' text
  let (lead, query) := Text.cut '?' front
  ⟨lead, query, fragment⟩

/-- The URL with query and fragment from a text. -/
def finish (url : Url) (sections : Sections) : Url :=
  { url with
    query := sections.query.map (escapeWhere (inQuery (Kind.ofScheme url.scheme).isSpecial))
    fragment := sections.fragment.map (escapeWhere inFragment) }

/-- A character of a scheme after the first. -/
def isSchemeChar (c : Char) : Bool :=
  c.isAlphanum || c == '+' || c == '-' || c == '.'

/-- The scheme at the front of a text, in lower case, and what follows it. -/
def scheme? (text : List Char) : Option (List Char × List Char) :=
  match text, text.dropWhile isSchemeChar with
  | c :: _, ':' :: rest =>
    if c.isAlpha then some ((text.takeWhile isSchemeChar).map Char.toLower, rest) else none
  | _, _ => none

/-! ### Hosts with their ports -/

/-- Cuts off the port, which follows a colon outside brackets. -/
def cutPort : (inside : Bool) → List Char → List Char × Option (List Char)
  | _, [] => ([], none)
  | inside, c :: text =>
    if c = ':' ∧ !inside then
      ([], some text)
    else
      let (host, port) := cutPort (c == '[' || (inside && c != ']')) text
      (c :: host, port)

/-- The port with the given digits, or none if there are no digits or the scheme uses it
anyway. -/
def port? (scheme digits : List Char) : Option (Option Nat) :=
  let port := Nat.ofDigitChars 10 digits 0
  if digits = [] ∨ defaultPort? scheme = some port then some none
  else if 65535 < port then none
  else some (some port)

/-- The name and password before the last `@`, and what follows it. -/
def cutUser (text : List Char) : Option (List Char) × List Char :=
  match Text.cut '@' text.reverse with
  | (host, none) => (none, host.reverse)
  | (host, some user) => (some user.reverse, host.reverse)

/-- What a text says about the host, and where a path follows it in the text: behind a
port a backslash begins one. -/
def authority? (scheme text : List Char) : Option (Authority × List Char) :=
  let (user, address) := cutUser text
  let (name, password) := Text.cut ':' (user.getD [])
  let (host, port) := cutPort false address
  let digits := (port.getD []).takeWhile Char.isDigit
  let rest := (port.getD []).dropWhile Char.isDigit
  let special := (Kind.ofScheme scheme).isSpecial
  if ¬ (rest = [] ∨ rest.head? = some '\\') then
    none
  else if host = [] then
    if special ∨ user = some [] ∨ name ≠ [] ∨ password.getD [] ≠ [] ∨ port.isSome then none
    else some ({}, rest)
  else
    match Host.parse? special host, port? scheme digits with
    | some host, some port =>
      some
        ({ user := escapeWhere inUserinfo name
           password := escapeWhere inUserinfo (password.getD [])
           host
           port }, rest)
    | _, _ => none

/-! ### Whole URLs -/

/-- The path after a host; only a special scheme has one in any case. -/
def pathAfterHost (kind : Kind) (text : List Char) : Place :=
  if kind = .other ∧ text = [] then .path [] else .path (Path.ofText kind text)

/-- The URL with a host and a path in a text. -/
def withHost? (scheme text : List Char) : Option Url :=
  let kind := Kind.ofScheme scheme
  match authority? scheme (text.takeWhile (!kind.isSlash ·)) with
  | none => none
  | some (authority, front) =>
    some
      { scheme
        authority
        place := pathAfterHost kind (front ++ text.dropWhile (!kind.isSlash ·)) }

/-- The host of a file; this computer needs no name. -/
def fileHost? (text : List Char) : Option (Option Host) :=
  if text = [] then
    some none
  else
    match Host.special? text with
    | none => none
    | some host => some (if host = .domain "localhost".toList then none else some host)

/-- The URL of a file with the given host and segments; a drive needs no host. -/
def fileAt (host : Option Host) (segments : List (List Char)) : Url :=
  { scheme := "file".toList
    authority := some { host := if Path.onDrive segments then none else host }
    place := .path (Path.dropEmpty segments) }

/-- The URL of a file.  Where the place of the host is empty, or holds the name of this
computer, the path begins with an empty segment. -/
def file? (text : List Char) : Option Url :=
  let segments (text : List Char) := Path.resolve .file (pieces Kind.file.isSlash text)
  match text with
  | c :: d :: rest =>
    if Kind.file.isSlash c && Kind.file.isSlash d then
      let name := rest.takeWhile (!Kind.file.isSlash ·)
      let path := rest.dropWhile (!Kind.file.isSlash ·)
      if Path.isDrive name then
        some (fileAt none (segments rest))
      else
        (fileHost? name).map fun host =>
          fileAt host (segments (if host = none then path else Path.dropSlash .file path))
    else
      some (fileAt none (Path.ofText .file text))
  | _ => some (fileAt none (Path.ofText .file text))

/-- The URL with a scheme. -/
def absolute? (scheme text : List Char) : Option Url :=
  match Kind.ofScheme scheme, text with
  | .web, _ => withHost? scheme (text.dropWhile Kind.web.isSlash)
  | .file, _ => file? text
  | .other, '/' :: '/' :: rest => withHost? scheme rest
  | .other, '/' :: rest =>
    some { scheme, authority := none, place := .path (Path.ofText .other ('/' :: rest)) }
  | .other, _ =>
    some { scheme, authority := none, place := .name (escapeWhere isOutsidePrintable text) }

/-- Reads a URL. -/
def parse? (text : List Char) : Option Url :=
  let sections := Sections.ofText (cleaned text)
  match scheme? sections.lead with
  | none => none
  | some (scheme, rest) => (absolute? scheme rest).map (finish · sections)

/-! ### References -/

/-- The number of slashes at the front of a text. -/
def slashes (text : List Char) : Nat :=
  (text.takeWhile Kind.web.isSlash).length

/-- The segments of a path, without the last, that are the start of a reference. -/
def startOf : Place → List (List Char)
  | .path segments => segments.dropLast
  | .name _ => []

/-- The text after the slashes before a host: after two of them as they are written on the
web, else after all that stand for one. -/
def afterSlashes : List Char → List Char
  | '/' :: '/' :: text => text
  | text => text.dropWhile Kind.web.isSlash

/-- What a reference without a scheme leads to from a URL of the web. -/
def relative? (base : Url) (text : List Char) : Option Url :=
  if 2 ≤ slashes text then
    withHost? base.scheme (afterSlashes text)
  else if slashes text = 1 then
    some { base with place := .path (Path.ofText .web text) }
  else if text = [] then
    some base
  else
    let segments := (pieces Kind.web.isSlash text).map (escapeWhere inPath)
    some { base with place := .path (Path.follow .web (startOf base.place).reverse segments) }

/-- The URL that a reference without a scheme leads to; an empty one keeps the query. -/
def joined? (base : Url) (sections : Sections) (lead : List Char) : Option Url :=
  (relative? base lead).map fun url =>
    let url := finish url sections
    if lead = [] ∧ sections.query = none then { url with query := base.query } else url

/-- Reads a reference on a page of the web. -/
def join? (base : Url) (text : List Char) : Option Url :=
  let sections := Sections.ofText (cleaned text)
  match scheme? sections.lead with
  | none => joined? base sections sections.lead
  | some (scheme, rest) =>
    if scheme = base.scheme ∧ slashes rest < 2 then
      joined? base sections rest
    else
      (absolute? scheme rest).map (finish · sections)

end ChatPortal.Url
