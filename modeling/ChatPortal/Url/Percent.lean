import ChatPortal.Text.Utf8

/-!
# Escaped text

In a URL the bytes of a character that may not stand for itself are written as `%` and
two hexadecimal digits.  `escapeWhere` escapes the characters of a set, and `unescape`
puts the bytes back; a `%` without two digits after it stands for itself.
-/

namespace ChatPortal.Url

/-- The upper-case digit for a number below sixteen. -/
def upperDigit (n : Nat) : Char :=
  if n < 10 then Char.ofNat (48 + n) else Char.ofNat (55 + n)

/-- A byte as `%` and two digits. -/
def escapeByte (b : UInt8) : List Char :=
  ['%', upperDigit (b.toNat / 16), upperDigit (b.toNat % 16)]

/-- The bytes of a character, each escaped. -/
def escapeChar (c : Char) : List Char :=
  (String.utf8EncodeChar c).flatMap escapeByte

/-- The text with the characters of a set escaped. -/
def escapeWhere (set : Char → Bool) (text : List Char) : List Char :=
  text.flatMap fun c => if set c then escapeChar c else [c]

/-- The value of a hexadecimal digit of either case. -/
def hexValue? (b : UInt8) : Option Nat :=
  let n := b.toNat
  if 48 ≤ n ∧ n ≤ 57 then some (n - 48)
  else if 65 ≤ n ∧ n ≤ 70 then some (n - 55)
  else if 97 ≤ n ∧ n ≤ 102 then some (n - 87)
  else none

/-- The byte that is escaped at the front of a text. -/
def escaped? : Bytes → Option (UInt8 × Bytes)
  | a :: b :: rest =>
    match hexValue? a, hexValue? b with
    | some a, some b => some (UInt8.ofNat (a * 16 + b), rest)
    | _, _ => none
  | _ => none

theorem length_escaped?_lt {bytes rest : Bytes} {b : UInt8}
    (h : escaped? bytes = some (b, rest)) :
  rest.length < bytes.length
  := by
  unfold escaped? at h
  split at h
  · split at h
    · cases h
      apply Nat.lt_succ_of_lt (Nat.lt_succ_self _)
    · cases h
  · cases h

/-- The bytes that a text stands for. -/
def unescape : Bytes → Bytes
  | [] => []
  | b :: rest =>
    if b = 0x25 then
      match _ : escaped? rest with
      | some (c, rest) => c :: unescape rest
      | none => b :: unescape rest
    else
      b :: unescape rest
termination_by bytes => bytes.length
decreasing_by
  · next h =>
    have := length_escaped?_lt h
    simp
    omega
  · simp
  · simp

/-! ### The characters that are escaped -/

/-- The control characters and the characters beyond ASCII. -/
def isOutsidePrintable (c : Char) : Bool :=
  c.toNat < 0x20 || 0x7F ≤ c.toNat

/-- The characters that are escaped in a fragment. -/
def inFragment (c : Char) : Bool :=
  isOutsidePrintable c || " \"<>`".toList.contains c

/-- The characters that are escaped in a segment of a path. -/
def inPath (c : Char) : Bool :=
  inFragment c || "?\x7b\x7d#".toList.contains c

/-- The characters that are escaped in the name and password before a host. -/
def inUserinfo (c : Char) : Bool :=
  inPath c || "/:;=@[\\]^|".toList.contains c

/-- The characters that are escaped in a query; a quote is so only where the scheme is a
special one. -/
def inQuery (special : Bool) (c : Char) : Bool :=
  isOutsidePrintable c || " \"#<>".toList.contains c || (special && c == '\'')

end ChatPortal.Url
