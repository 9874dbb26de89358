import ChatPortal.Text.Utf8

/-!
# Boundaries of characters

A text that may have only some number of bytes is cut where a character ends.
`Utf8.boundary?` searches for that place backwards, byte by byte, and `Utf8.slice?` takes
the characters in front of a place.  A search that finds nothing, and a place within a
character, give `none`.
-/

namespace ChatPortal.Utf8

/-- Behind a number of bytes a character begins, or the text ends: no byte that continues
a character stands there. -/
def isBoundary (bytes : Bytes) (n : Nat) : Bool :=
  n == 0 || n == bytes.length || bytes[n]?.any fun b => b < 0x80 || 0xC0 ≤ b

/-- The last boundary behind at most some number of bytes. -/
def boundary? (bytes : Bytes) : Nat → Option Nat
  | 0 => if isBoundary bytes 0 then some 0 else none
  | n + 1 => if isBoundary bytes (n + 1) then some (n + 1) else boundary? bytes n

/-- The characters in the first bytes of a text. -/
def slice? (bytes : Bytes) (n : Nat) : Option (List Char) :=
  if n ≤ bytes.length then decode? (bytes.take n) else none

end ChatPortal.Utf8
