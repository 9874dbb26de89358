/-!
# UTF-8

`Utf8.encode` writes characters as bytes.  `Utf8.scan` reads bytes back, one entry for
each character and one `none` for each maximal piece that begins no character;
`Utf8.decode?` accepts the byte strings without such a piece and `Utf8.decodeLossy`
puts U+FFFD in its place.
-/

namespace ChatPortal

/-- A byte string. -/
abbrev Bytes := List UInt8

namespace Utf8

/-- The bytes of some characters. -/
def encode (text : List Char) : Bytes :=
  text.flatMap String.utf8EncodeChar

@[simp]
theorem encode_nil :
  encode [] = []
  := rfl

@[simp]
theorem encode_cons (c : Char) (text : List Char) :
  encode (c :: text) = String.utf8EncodeChar c ++ encode text
  := rfl

@[simp]
theorem encode_append (text more : List Char) :
  encode (text ++ more) = encode text ++ encode more
  := List.flatMap_append

/-- What a first byte announces: the number of bytes that follow, the range of the
first of them, and the bits of the character that the first byte carries. -/
structure Lead where
  count : Nat
  low : Nat
  high : Nat
  bits : Nat

/-- The announcement of a byte, or `none` for a byte that begins no character. -/
def Lead.ofByte? (b : UInt8) : Option Lead :=
  let n := b.toNat
  if n < 0x80 then some ⟨0, 0x80, 0xBF, n⟩
  else if n < 0xC2 then none
  else if n < 0xE0 then some ⟨1, 0x80, 0xBF, n - 0xC0⟩
  else if n = 0xE0 then some ⟨2, 0xA0, 0xBF, 0⟩
  else if n = 0xED then some ⟨2, 0x80, 0x9F, 13⟩
  else if n < 0xF0 then some ⟨2, 0x80, 0xBF, n - 0xE0⟩
  else if n = 0xF0 then some ⟨3, 0x90, 0xBF, 0⟩
  else if n < 0xF4 then some ⟨3, 0x80, 0xBF, n - 0xF0⟩
  else if n = 0xF4 then some ⟨3, 0x80, 0x8F, 4⟩
  else none

/-- Reads the bytes that a first byte announced and returns the code point, if all of
them are there, with what is left; a byte out of range is left. -/
def continuation : (count low high bits : Nat) → Bytes → Option Nat × Bytes
  | 0, _, _, bits, rest => (some bits, rest)
  | _ + 1, _, _, _, [] => (none, [])
  | count + 1, low, high, bits, b :: rest =>
    if low ≤ b.toNat ∧ b.toNat ≤ high then
      continuation count 0x80 0xBF (bits * 64 + (b.toNat - 0x80)) rest
    else
      (none, b :: rest)

theorem length_continuation_le (count low high bits : Nat) (rest : Bytes) :
  (continuation count low high bits rest).2.length ≤ rest.length
  := by
  induction count generalizing low high bits rest with
  | zero => simp [continuation]
  | succ count ih =>
    cases rest with
    | nil => simp [continuation]
    | cons b rest =>
      simp only [continuation]
      split
      · apply Nat.le_trans (ih _ _ _ _)
        simp
      · simp

/-- The character at the front of a byte string, or `none` for a broken one, with what
is left. -/
def front (b : UInt8) (rest : Bytes) : Option Char × Bytes :=
  match Lead.ofByte? b with
  | none => (none, rest)
  | some lead =>
    let (code, left) := continuation lead.count lead.low lead.high lead.bits rest
    (code.map Char.ofNat, left)

theorem length_front_le (b : UInt8) (rest : Bytes) :
  (front b rest).2.length ≤ rest.length
  := by
  unfold front
  split
  · simp
  · apply length_continuation_le

/-- The characters of a byte string, with `none` for each broken piece. -/
def scan : Bytes → List (Option Char)
  | [] => []
  | b :: rest => (front b rest).1 :: scan (front b rest).2
termination_by bytes => bytes.length
decreasing_by
  have := length_front_le b rest
  simp only [List.length_cons]
  omega

/-- The characters of a byte string that is UTF-8 throughout. -/
def decode? (bytes : Bytes) : Option (List Char) :=
  (scan bytes).mapM id

/-- The number of bytes in front of the first broken piece. -/
def intact (bytes : Bytes) : Nat :=
  (encode (((scan bytes).takeWhile Option.isSome).filterMap id)).length

/-- The characters of any byte string, with U+FFFD for each broken piece. -/
def decodeLossy (bytes : Bytes) : List Char :=
  (scan bytes).map (·.getD '\uFFFD')

end Utf8

/-- The UTF-8 bytes of a text. -/
def bytesOf (text : String) : Bytes :=
  Utf8.encode text.toList

/-- The text of a byte string, if it is UTF-8. -/
def textOf? (bytes : Bytes) : Option String :=
  (Utf8.decode? bytes).map String.ofList

/-- The text of a byte string, with U+FFFD for each broken piece. -/
def lossyText (bytes : Bytes) : String :=
  String.ofList (Utf8.decodeLossy bytes)

end ChatPortal
