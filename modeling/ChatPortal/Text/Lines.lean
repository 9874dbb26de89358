import ChatPortal.Text.Utf8

/-!
# Lines

`Text.lines` cuts bytes behind each line feed, and keeps the line feed with its line.
-/

namespace ChatPortal.Text

/-- The line feed. -/
def lineFeed : UInt8 := 0x0A

/-- The lines of some bytes, each with the line feed that ends it. -/
def lines : Bytes → List Bytes
  | [] => []
  | b :: rest =>
    if b = lineFeed then
      [b] :: lines rest
    else
      match lines rest with
      | [] => [[b]]
      | line :: more => (b :: line) :: more

end ChatPortal.Text
