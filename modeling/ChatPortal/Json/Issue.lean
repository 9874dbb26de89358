import ChatPortal.Decimal.Shortest
import ChatPortal.Text.Quoted
import ChatPortal.Text.Utf8

/-!
# What can be wrong with a JSON text

An `Issue` is a reason for which a JSON text or value is refused, and `Issue.message` its
wording.  A `Failure` adds how much of the text was left when the issue came up;
`Failure.message` turns that into a line and a column.
-/

namespace ChatPortal.Json

/-- What was found where something else was expected. -/
inductive Found where
  | null
  | bool (value : Bool)
  | integer (value : Int)
  | real (value : Binary64)
  | string (value : String)
  | array
  | object
deriving Repr

/-- The words for what was found. -/
def Found.describe : Found → String
  | .null => "null"
  | .bool b => "boolean `" ++ toString b ++ "`"
  | .integer n => "integer `" ++ toString n ++ "`"
  | .real x => "floating point `" ++ String.ofList x.text ++ "`"
  | .string s => "string " ++ Text.quoted s
  | .array => "sequence"
  | .object => "map"

/-- A reason to refuse a JSON text or value. -/
inductive Issue where
  | endInArray
  | endInObject
  | endInString
  | endInValue
  | expectedColon
  | expectedCommaInArray
  | expectedCommaInObject
  | expectedWord
  | expectedValue
  | badEscape
  | badNumber
  | numberTooLarge
  | badCharacter
  | controlCharacter
  | keyNotString
  | loneSurrogate
  | halfSurrogate
  | trailingComma
  | trailingCharacters
  | nestedTooDeep
  | wrongType (found : Found) (expected : String)
  | wrongValue (found : Found) (expected : String)
  | wrongLength (length : Nat) (expected : String)
  | missingField (name : String)
  | duplicateField (name : String)
  | unknownVariant (name : String) (variants : List String)
  | refused (reason : String)
deriving Repr

/-- A list of alternatives, each in backticks. -/
def alternatives : List String → String
  | [] => "there are no variants"
  | [a] => "expected `" ++ a ++ "`"
  | [a, b] => "expected `" ++ a ++ "` or `" ++ b ++ "`"
  | names => "expected one of " ++ ", ".intercalate (names.map fun n => "`" ++ n ++ "`")

/-- The wording of an issue. -/
def Issue.message : Issue → String
  | .endInArray => "EOF while parsing a list"
  | .endInObject => "EOF while parsing an object"
  | .endInString => "EOF while parsing a string"
  | .endInValue => "EOF while parsing a value"
  | .expectedColon => "expected `:`"
  | .expectedCommaInArray => "expected `,` or `]`"
  | .expectedCommaInObject => "expected `,` or `\x7d`"
  | .expectedWord => "expected ident"
  | .expectedValue => "expected value"
  | .badEscape => "invalid escape"
  | .badNumber => "invalid number"
  | .numberTooLarge => "number out of range"
  | .badCharacter => "invalid unicode code point"
  | .controlCharacter =>
    "control character (\\u0000-\\u001F) found while parsing a string"
  | .keyNotString => "key must be a string"
  | .loneSurrogate => "lone leading surrogate in hex escape"
  | .halfSurrogate => "unexpected end of hex escape"
  | .trailingComma => "trailing comma"
  | .trailingCharacters => "trailing characters"
  | .nestedTooDeep => "recursion limit exceeded"
  | .wrongType found expected =>
    "invalid type: " ++ found.describe ++ ", expected " ++ expected
  | .wrongValue found expected =>
    "invalid value: " ++ found.describe ++ ", expected " ++ expected
  | .wrongLength length expected =>
    "invalid length " ++ toString length ++ ", expected " ++ expected
  | .missingField name => "missing field `" ++ name ++ "`"
  | .duplicateField name => "duplicate field `" ++ name ++ "`"
  | .unknownVariant name variants =>
    "unknown variant `" ++ name ++ "`, " ++ alternatives variants
  | .refused reason => reason

/-- An issue that came up while `left` bytes of the text were left. -/
structure Failure where
  issue : Issue
  left : Nat
deriving Repr

/-- The issue came up in front of `rest`. -/
def Failure.before (issue : Issue) (rest : Bytes) : Failure :=
  ⟨issue, rest.length⟩

/-- The issue is with the next byte of `rest`. -/
def Failure.after (issue : Issue) (rest : Bytes) : Failure :=
  ⟨issue, rest.length - 1⟩

/-- The line of a place in a text, counted from one, and the number of bytes before it on
that line; a place is told by the number of bytes left. -/
def place (text : Bytes) (left : Nat) : Nat × Nat :=
  let passed := text.take (text.length - left)
  (passed.count 0x0A + 1, (passed.reverse.takeWhile (· != 0x0A)).length)

/-- The wording of a failure, with its place in the text. -/
def Failure.message (failure : Failure) (text : Bytes) : String :=
  let (line, column) := place text failure.left
  failure.issue.message ++ " at line " ++ toString line ++ " column " ++ toString column

end ChatPortal.Json
