import ChatPortal.Text.Blank

/-!
# Labels beyond ASCII

A label of a domain that is not ASCII is written in ASCII letters and digits: the ASCII
characters first, then, as numbers of variable length, where the others go.
`Punycode.encode` writes a label in this way and `Punycode.decode?` reads it.
-/

namespace ChatPortal.Url.Punycode

/-- The digit for a number below 36. -/
def digit (n : Nat) : Char :=
  if n < 26 then Char.ofNat (97 + n) else Char.ofNat (22 + n)

/-- The number of a digit. -/
def digit? (c : Char) : Option Nat :=
  let n := c.toNat
  if 97 ≤ n ∧ n ≤ 122 then some (n - 97)
  else if 48 ≤ n ∧ n ≤ 57 then some (n - 22)
  else none

/-- The least digit at a place that does not end a number, at least 1 and at most 26. -/
def threshold (bias place : Nat) : Nat :=
  max 1 (min 26 (36 * (place + 1) - bias))

/-- Divides by 35 until at most 455 is left, and counts the divisions in steps of 36. -/
def reduce (delta count : Nat) : Nat × Nat :=
  if 455 < delta then reduce (delta / 35) (count + 36) else (delta, count)
termination_by delta
decreasing_by omega

/-- The bias after a number was written. -/
def nextBias (delta size : Nat) (first : Bool) : Nat :=
  let delta := if first then delta / 700 else delta / 2
  let (delta, count) := reduce (delta + delta / size) 0
  count + 36 * delta / (delta + 38)

/-- The digits of a number from a place on. -/
def digits (bias place n : Nat) : List Char :=
  let t := threshold bias place
  if n < t then [digit n]
  else digit (t + (n - t) % (36 - t)) :: digits bias (place + 1) ((n - t) / (36 - t))
termination_by n
decreasing_by
  have : 1 ≤ threshold bias place := Nat.le_max_left 1 _
  have := Nat.div_le_self (n - threshold bias place) (36 - threshold bias place)
  simp only [t] at *
  omega

/-- A label that is being written: the digits so far, the distance to the next character,
the bias, and the number of characters that are written. -/
structure Draft where
  out : List Char
  delta : Nat
  bias : Nat
  written : Nat

/-- Passes over a character of the label, and writes it if it is the one in turn. -/
def Draft.pass (basic turn : Nat) (draft : Draft) (c : Char) : Draft :=
  if c.toNat < turn then
    { draft with delta := draft.delta + 1 }
  else if c.toNat = turn then
    { out := draft.out ++ digits draft.bias 0 draft.delta
      delta := 0
      bias := nextBias draft.delta (draft.written + 1) (draft.written == basic)
      written := draft.written + 1 }
  else
    draft

/-- Writes the characters beyond ASCII, whose numbers come in ascending order; `reached`
is the first number that had no turn yet. -/
def writeTurns (label : List Char) (basic : Nat) : (turns : List Nat) → (reached : Nat) →
    Draft → Draft
  | [], _, draft => draft
  | turn :: turns, reached, draft =>
    let draft := { draft with delta := draft.delta + (turn - reached) * (draft.written + 1) }
    let draft := label.foldl (Draft.pass basic turn) draft
    writeTurns label basic turns (turn + 1) { draft with delta := draft.delta + 1 }

/-- The character is ASCII. -/
def isBasic (c : Char) : Bool := c.toNat < 0x80

/-- A label in ASCII characters. -/
def encode (label : List Char) : List Char :=
  let basic := label.filter isBasic
  let others := (label.filter (!isBasic ·)).map Char.toNat
  let turns := (others.mergeSort fun a b => decide (a ≤ b)).eraseDups
  let draft := writeTurns label basic.length turns 0x80 ⟨[], 0, 72, basic.length⟩
  (if basic = [] then [] else basic ++ ['-']) ++ draft.out

/-- Reads a number from a place on and returns it with what is left. -/
def number? (bias : Nat) : (place weight n : Nat) → List Char → Option (Nat × List Char)
  | _, _, _, [] => none
  | place, weight, n, c :: rest =>
    match digit? c with
    | none => none
    | some d =>
      let t := threshold bias place
      if d < t then some (n + d * weight, rest)
      else number? bias (place + 1) (weight * (36 - t)) (n + d * weight) rest

theorem length_number?_lt {bias place weight n m : Nat} {text rest : List Char}
    (h : number? bias place weight n text = some (m, rest)) :
  rest.length < text.length
  := by
  induction text generalizing place weight n with
  | nil => cases h
  | cons c text ih =>
    simp only [number?] at h
    split at h
    · cases h
    · split at h
      · cases h
        simp
      · have := ih h
        simp
        omega

/-- Puts the remaining characters into a label; the next goes to the place `index` or
behind and has at least the number `turn`. -/
def insertTurns (bias turn index : Nat) (label text : List Char) : Option (List Char) :=
  match text with
  | [] => some label
  | c :: rest =>
    match _ : number? bias 0 1 index (c :: rest) with
    | none => none
    | some (n, left) =>
      let size := label.length + 1
      let code := turn + n / size
      if code.isValidChar then
        insertTurns (nextBias (n - index) size (index == 0)) code (n % size + 1)
          (label.insertIdx (n % size) (Char.ofNat code)) left
      else
        none
termination_by text.length
decreasing_by
  next h _ => exact length_number?_lt h

/-- The label that ASCII characters stand for.  A hyphen is read as the end of the ASCII
characters only if there are any. -/
def decode? (text : List Char) : Option (List Char) :=
  let tail := (text.reverse.takeWhile (· != '-')).reverse
  let front := text.take (text.length - tail.length)
  if front = ['-'] then none
  else if front.all isBasic then insertTurns 72 0x80 0 front.dropLast tail
  else none

end ChatPortal.Url.Punycode
