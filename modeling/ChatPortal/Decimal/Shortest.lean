import ChatPortal.Decimal.Binary64

/-!
# Shortest decimal text

`Binary64.digits` chooses for a number the decimal with the fewest digits that rounds
back to it, and of those the nearest to it; `Binary64.text` writes it, positionally when
the point falls near the digits and with an exponent otherwise.
-/

namespace ChatPortal.Binary64

/-- The interval of quotients that round to a positive number, in units of
`2 ^ (exponent - 2)`: its two ends, and whether they belong to it. -/
structure Neighbourhood where
  low : Nat
  high : Nat
  closed : Bool

/-- The interval of quotients that round to the number. -/
def neighbourhood (x : Binary64) : Neighbourhood :=
  let m := x.mantissa
  let low :=
    if m = Nat.pow 2 52 ∧ leastExponent < x.exponent then 4 * m - 1 else 4 * m - 2
  ⟨low, 4 * m + 2, m % 2 == 0⟩

/-- Whether `d · 10 ^ s` rounds to the number. -/
def attains (x : Binary64) (d : Nat) (s : Int) : Bool :=
  let unit := scale 1 (x.exponent - 2)
  let (num, den) := if 0 ≤ s then (d * Nat.pow 10 s.toNat, 1) else (d, Nat.pow 10 (-s).toNat)
  let value := num * unit.2
  let near := x.neighbourhood
  let low := near.low * unit.1 * den
  let high := near.high * unit.1 * den
  if near.closed then low ≤ value && value ≤ high else low < value && value < high

/-- The distance from the number to `d · 10 ^ s`, up to a factor that depends on `s`
alone. -/
def distance (x : Binary64) (d : Nat) (s : Int) : Nat :=
  let (num, den) := if 0 ≤ s then (d * Nat.pow 10 s.toNat, 1) else (d, Nat.pow 10 (-s).toNat)
  let a := num * x.ratio.2
  let b := x.ratio.1 * den
  if a ≤ b then b - a else a - b

/-- The exponent of the leading decimal digit of a positive number. -/
def leadingPlace (x : Binary64) : Int :=
  let (num, den) := x.ratio
  if den ≤ num then
    ((Nat.toDigits 10 (num / den)).length : Int) - 1
  else
    match (List.range 400).find? (fun j => den ≤ num * Nat.pow 10 (j + 1)) with
    | some j => -(j + 1 : Int)
    | none => -400

/-- The nearer of the two decimals `d · 10 ^ s` beside the number that rounds to it, if
one does. -/
def onGrid? (x : Binary64) (s : Int) : Option Nat :=
  let (num, den) := x.ratio
  let below :=
    if 0 ≤ s then num / (den * Nat.pow 10 s.toNat) else num * Nat.pow 10 (-s).toNat / den
  match x.attains below s && 0 < below, x.attains (below + 1) s with
  | true, true =>
    let down := x.distance below s
    let up := x.distance (below + 1) s
    some (if up < down || (up == down && below % 2 == 1) then below + 1 else below)
  | true, false => some below
  | false, true => some (below + 1)
  | false, false => none

/-- The digits of the shortest decimal that rounds to a positive number, and the
exponent of the last of them. -/
def digits (x : Binary64) : Nat × Int :=
  let top := x.leadingPlace
  let found := (List.range 17).findSome? fun (p : Nat) =>
    (x.onGrid? (top - p)).map fun d => (d, top - (p : Int))
  found.getD (0, 0)

/-- The decimal without zeros at its end. -/
def dropZeros : (fuel : Nat) → Nat × Int → Nat × Int
  | 0, d => d
  | fuel + 1, (d, s) => if d % 10 == 0 && d != 0 then dropZeros fuel (d / 10, s + 1) else (d, s)

/-- The text of the digits `d · 10 ^ s` of a positive number: with a point when that
falls at most sixteen places after the first digit or fewer than five before it, and with
an exponent otherwise. -/
def layout (d : Nat) (s : Int) : List Char :=
  let ds := Nat.toDigits 10 d
  let count : Int := ds.length
  let point := count + s
  if 0 ≤ s ∧ point ≤ 16 then
    ds ++ List.replicate s.toNat '0' ++ ['.', '0']
  else if 0 < point ∧ point ≤ 16 then
    ds.take point.toNat ++ ['.'] ++ ds.drop point.toNat
  else if -5 < point ∧ point ≤ 0 then
    ['0', '.'] ++ List.replicate (-point).toNat '0' ++ ds
  else
    let mantissa := if ds.length = 1 then ds else ds.take 1 ++ ['.'] ++ ds.drop 1
    let e := point - 1
    mantissa ++ ['e', if e < 0 then '-' else '+'] ++ Nat.toDigits 10 e.natAbs

/-- The shortest decimal text that reads back as the number. -/
def text (x : Binary64) : List Char :=
  let sign := if x.negative then ['-'] else []
  if x.isZero then
    sign ++ ['0', '.', '0']
  else
    let (d, s) := dropZeros 20 x.digits
    sign ++ layout d s

end ChatPortal.Binary64
