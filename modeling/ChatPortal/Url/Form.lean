import ChatPortal.Url.Percent
import ChatPortal.Text.Blank

/-!
# Pairs in a query

`formEncode` writes a list of keys and values as `key=value&key=value`, and `formDecode`
reads it back.  A space is written as `+`; letters, digits and `*-._` stand for
themselves and every other byte is escaped.
-/

namespace ChatPortal.Url

/-- A byte stands for itself in a key or a value. -/
def isPlain (b : UInt8) : Bool :=
  (Char.ofNat b.toNat).isAlphanum || b == 0x2A || b == 0x2D || b == 0x2E || b == 0x5F

/-- A byte as it stands in a key or a value. -/
def formByte (b : UInt8) : List Char :=
  if b = 0x20 then ['+']
  else if isPlain b then [Char.ofNat b.toNat]
  else escapeByte b

/-- A key or a value as it stands in a query. -/
def formText (text : String) : List Char :=
  (bytesOf text).flatMap formByte

/-- A key with its value. -/
def formPair (pair : String × String) : List Char :=
  formText pair.1 ++ '=' :: formText pair.2

/-- The pairs as a query. -/
def formEncode (pairs : List (String × String)) : List Char :=
  ['&'].intercalate (pairs.map formPair)

/-- The text with a space for each `+`. -/
def unplus (text : List Char) : List Char :=
  text.map fun c => if c = '+' then ' ' else c

/-- The key or value that a piece of a query stands for. -/
def formValue (text : List Char) : String :=
  lossyText (unescape (Utf8.encode (unplus text)))

/-- The pieces of a text between separators. -/
def pieces (isSeparator : Char → Bool) : List Char → List (List Char)
  | [] => [[]]
  | c :: text =>
    if isSeparator c then
      [] :: pieces isSeparator text
    else
      match pieces isSeparator text with
      | [] => [[c]]
      | piece :: more => (c :: piece) :: more

/-- The pair that a piece of a query stands for; without `=` the value is empty. -/
def unpair (piece : List Char) : String × String :=
  let (key, value) := Text.cut '=' piece
  (formValue key, formValue (value.getD []))

/-- The pairs in a query; empty pieces are passed over. -/
def formDecode (query : List Char) : List (String × String) :=
  ((pieces (· == '&') query).filter (· ≠ [])).map unpair

end ChatPortal.Url
