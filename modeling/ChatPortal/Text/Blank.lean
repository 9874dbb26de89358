/-!
# Blank characters

`isBlank` is the White_Space property of Unicode.  `trim` and its one-sided forms take
blanks off the ends of a list of characters, `dropFront` and `dropBack` one character,
and `dropRepeated` a whole word.
-/

namespace ChatPortal.Text

/-- The characters with the Unicode property White_Space. -/
def isBlank (c : Char) : Bool :=
  let n := c.toNat
  (0x9 ≤ n && n ≤ 0xD) || n == 0x20 || n == 0x85 || n == 0xA0 || n == 0x1680 ||
    (0x2000 ≤ n && n ≤ 0x200A) || n == 0x2028 || n == 0x2029 || n == 0x202F ||
    n == 0x205F || n == 0x3000

/-- The text without the blanks at its front. -/
def trimFront (text : List Char) : List Char :=
  text.dropWhile isBlank

/-- The text without the blanks at its end. -/
def trimBack (text : List Char) : List Char :=
  (text.reverse.dropWhile isBlank).reverse

/-- The text without the blanks at either end. -/
def trim (text : List Char) : List Char :=
  trimBack (trimFront text)

/-- The text without any `c` at its front. -/
def dropFront (c : Char) (text : List Char) : List Char :=
  text.dropWhile (· == c)

/-- The text without any `c` at its end. -/
def dropBack (c : Char) (text : List Char) : List Char :=
  (text.reverse.dropWhile (· == c)).reverse

/-- The text without a word at its front, as often as the word stands there. -/
def dropRepeated (word : List Char) (text : List Char) : List Char :=
  if word ≠ [] ∧ word <+: text then dropRepeated word (text.drop word.length) else text
termination_by text.length
decreasing_by
  next h =>
    have := List.length_pos_iff.mpr h.1
    have := h.2.length_le
    simp only [List.length_drop]
    omega

/-- The text up to the first `c`, and what follows it if it occurs. -/
def cut (c : Char) : List Char → List Char × Option (List Char)
  | [] => ([], none)
  | d :: text =>
    if d = c then ([], some text)
    else
      let (before, after) := cut c text
      (d :: before, after)

theorem cut_of_not_mem {c : Char} {text : List Char} (h : c ∉ text) :
  cut c text = (text, none)
  := by
  induction text with
  | nil => rfl
  | cons d text ih =>
    rw [List.mem_cons, not_or] at h
    rw [cut, if_neg (Ne.symm h.1), ih h.2]

theorem cut_append_cons {c : Char} {before : List Char} (h : c ∉ before) (after : List Char) :
  cut c (before ++ c :: after) = (before, some after)
  := by
  induction before with
  | nil => exact if_pos rfl
  | cons d before ih =>
    rw [List.mem_cons, not_or] at h
    rw [List.cons_append, cut, if_neg (Ne.symm h.1), ih h.2]

end ChatPortal.Text
