/-!
# Ranges of characters

Properties of characters are given as lists of ranges, each by the numbers of its first
and its last character.  `inRanges` asks whether a character lies in one of them.
-/

namespace ChatPortal.Text

/-- A character lies in one of some ranges. -/
def inRanges (ranges : List (Nat × Nat)) (c : Char) : Bool :=
  ranges.any fun (first, last) => first ≤ c.toNat && c.toNat ≤ last

end ChatPortal.Text
