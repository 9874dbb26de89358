import ChatPortal.Text.Utf8

/-!
# Header fields

`Headers` list the fields of a message, names in lower case.  `Headers.set` puts a field
in place of the ones with the same name and `Headers.add` puts one behind them;
`Headers.get?` finds the first.  A value is sendable when it holds no control character
but the tab, and it is legible when it is visible ASCII.
-/

namespace ChatPortal.Http

/-- The characters of a name or a method. -/
def isTokenChar (c : Char) : Bool :=
  c.isAlphanum || "!#$%&'*+-.^_`|~".toList.contains c

/-- A text can be the name of a header field, or a method. -/
def isToken (text : String) : Bool :=
  text != "" && text.toList.all isTokenChar

/-- A byte can be sent in a header field. -/
def isSendableByte (b : UInt8) : Bool :=
  (0x20 ≤ b && b != 0x7F) || b == 0x09

/-- A text can be sent as the value of a header field. -/
def isSendable (text : String) : Bool :=
  (bytesOf text).all isSendableByte

/-- A byte is visible ASCII, a space or a tab. -/
def isLegibleByte (b : UInt8) : Bool :=
  (0x20 ≤ b && b < 0x7F) || b == 0x09

/-- The text of a value, if it is visible ASCII throughout. -/
def legible? (value : Bytes) : Option String :=
  if value.all isLegibleByte then
    some (String.ofList (value.map fun b => Char.ofNat b.toNat))
  else
    none

/-- The fields of a message. -/
abbrev Headers := List (String × Bytes)

namespace Headers

/-- The first value of a field; `name` is in lower case. -/
def get? (headers : Headers) (name : String) : Option Bytes :=
  headers.lookup name

/-- Puts a field in place of those with the same name. -/
def set (headers : Headers) (name : String) (value : Bytes) : Headers :=
  headers.filter (·.1 != name) ++ [(name, value)]

/-- Puts a field behind the others. -/
def add (headers : Headers) (name : String) (value : Bytes) : Headers :=
  headers ++ [(name, value)]

/-- A text in lower case, as far as it is ASCII. -/
def lower (text : String) : String :=
  String.ofList (text.toList.map Char.toLower)

/-- Puts a field in place of those with the same name, if its name and value can be
sent. -/
def offer (headers : Headers) (name value : String) : Headers :=
  if isToken name && isSendable value then
    headers.set (lower name) (bytesOf value)
  else
    headers

/-- The name of the field that carries a credential. -/
def authorization : String := "authorization"

/-- The credential that the fields carry, if it is visible ASCII. -/
def credential? (headers : Headers) : Option String :=
  (headers.get? authorization).bind legible?

end Headers

end ChatPortal.Http
