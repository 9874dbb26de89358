import ChatPortal.Json.Basic
import ChatPortal.Decimal.Shortest

/-!
# Writing JSON

`Json.render` writes a value without blanks, `Json.renderIndented` with one item or
member a line.  In a string, a quote, a backslash and the control characters are escaped
and nothing else.
-/

namespace ChatPortal.Json

/-- The lower-case digit for a number below sixteen. -/
def hexDigit (n : Nat) : Char :=
  if n < 10 then Char.ofNat (48 + n) else Char.ofNat (87 + n)

/-- A character as it stands in a string. -/
def escape (c : Char) : List Char :=
  if c = '"' then ['\\', '"']
  else if c = '\\' then ['\\', '\\']
  else if c = '\x08' then ['\\', 'b']
  else if c = '\x09' then ['\\', 't']
  else if c = '\x0a' then ['\\', 'n']
  else if c = '\x0c' then ['\\', 'f']
  else if c = '\x0d' then ['\\', 'r']
  else if c.toNat < 0x20 then
    ['\\', 'u', '0', '0', hexDigit (c.toNat / 16), hexDigit (c.toNat % 16)]
  else [c]

/-- A string in quotes. -/
def quote (text : List Char) : List Char :=
  '"' :: (text.flatMap escape ++ ['"'])

/-- The decimal digits of an integer. -/
def renderInt (n : Int) : List Char :=
  if n < 0 then '-' :: Nat.toDigits 10 n.natAbs else Nat.toDigits 10 n.natAbs

/-- The text of a number. -/
def renderNumber : JsonNumber → List Char
  | .integer n => renderInt n
  | .real x => x.text

mutual

/-- The text of a value without blanks. -/
def render : Json → List Char
  | .null => "null".toList
  | .bool true => "true".toList
  | .bool false => "false".toList
  | .number n => renderNumber n
  | .string s => quote s.toList
  | .array items => '[' :: (renderItems items ++ [']'])
  | .object members => '\x7b' :: (renderMembers members ++ ['\x7d'])

/-- The items of an array, with commas between them. -/
def renderItems : List Json → List Char
  | [] => []
  | v :: rest => render v ++ renderMoreItems rest

/-- The items after the first. -/
def renderMoreItems : List Json → List Char
  | [] => []
  | v :: rest => ',' :: (render v ++ renderMoreItems rest)

/-- The members of an object, with commas between them. -/
def renderMembers : List (String × Json) → List Char
  | [] => []
  | (k, v) :: rest => quote k.toList ++ ':' :: (render v ++ renderMoreMembers rest)

/-- The members after the first. -/
def renderMoreMembers : List (String × Json) → List Char
  | [] => []
  | (k, v) :: rest => ',' :: (quote k.toList ++ ':' :: (render v ++ renderMoreMembers rest))

end

/-- The text of a value without blanks. -/
def text (v : Json) : String := String.ofList (render v)

/-- A new line, indented. -/
def newLine (indent : Nat) : List Char :=
  '\n' :: List.replicate (2 * indent) ' '

mutual

/-- The text of a value with each item and member on a line of its own. -/
def renderIndented (indent : Nat) : Json → List Char
  | .array (v :: rest) =>
    '[' :: (newLine (indent + 1) ++ renderIndented (indent + 1) v ++
      renderMoreItemsIndented indent rest ++ newLine indent ++ [']'])
  | .object ((k, v) :: rest) =>
    '\x7b' :: (newLine (indent + 1) ++ quote k.toList ++ [':', ' '] ++
      renderIndented (indent + 1) v ++ renderMoreMembersIndented indent rest ++
      newLine indent ++ ['\x7d'])
  | .array [] => ['[', ']']
  | .object [] => ['\x7b', '\x7d']
  | .null => "null".toList
  | .bool true => "true".toList
  | .bool false => "false".toList
  | .number n => renderNumber n
  | .string s => quote s.toList

/-- The items after the first, each on a line of its own. -/
def renderMoreItemsIndented (indent : Nat) : List Json → List Char
  | [] => []
  | v :: rest =>
    ',' :: (newLine (indent + 1) ++ renderIndented (indent + 1) v ++
      renderMoreItemsIndented indent rest)

/-- The members after the first, each on a line of its own. -/
def renderMoreMembersIndented (indent : Nat) : List (String × Json) → List Char
  | [] => []
  | (k, v) :: rest =>
    ',' :: (newLine (indent + 1) ++ quote k.toList ++ [':', ' '] ++
      renderIndented (indent + 1) v ++ renderMoreMembersIndented indent rest)

end

end ChatPortal.Json
