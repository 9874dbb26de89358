import ChatPortal.Json.Lexical

/-!
# The value of a numeral

An integer keeps its value when it fits into 64 bits, with or without a sign.  Every
other numeral is a double-precision number: as many digits as fit into 64 bits form a
significand, and that is multiplied or divided once by the power of ten that is left.
-/

namespace ChatPortal.Json

/-- The greatest significand. -/
def maxSignificand : Nat := 0xFFFFFFFFFFFFFFFF

/-- The greatest exponent that is looked at. -/
def maxExponent : Nat := 0x7FFFFFFF

/-- Appends digits to a number while the result is at most `limit`, and returns the
number with the digits that are left. -/
def appendDigits (limit : Nat) : Nat → List Nat → Nat × List Nat
  | n, [] => (n, [])
  | n, d :: ds => if n * 10 + d ≤ limit then appendDigits limit (n * 10 + d) ds else (n, d :: ds)

/-- The greatest exponent of a power of ten. -/
def maxPower : Nat := 308

/-- The power of ten with exponent `k`, rounded. -/
def powerOfTen (k : Nat) : Binary64 :=
  (Binary64.ofNat? (Nat.pow 10 k)).getD (.zero false)

/-- `x / 10 ^ k`, by one division after another. -/
def divideDecimal (x : Binary64) (k : Nat) : Option Binary64 :=
  match x.div? (powerOfTen (min k maxPower)) with
  | none => none
  | some y =>
    if k ≤ maxPower ∨ y.isZero then some y else divideDecimal y (k - maxPower)
termination_by k
decreasing_by
  next h =>
    simp only [not_or, maxPower] at h ⊢
    omega

/-- `x · 10 ^ k`, if it is not too large. -/
def multiplyDecimal (x : Binary64) (k : Nat) : Option Binary64 :=
  if x.isZero then some x
  else if maxPower < k then none
  else x.mul? (powerOfTen k)

/-- `x · 10 ^ e`, if it is not too large. -/
def shiftDecimal (x : Binary64) (e : Int) : Option Binary64 :=
  if 0 ≤ e then multiplyDecimal x e.toNat else divideDecimal x e.natAbs

/-- The double-precision number `± significand · 10 ^ e`. -/
def realOf? (negative : Bool) (significand : Nat) (e : Int) : Option Binary64 :=
  match (Binary64.ofNat? significand).bind (shiftDecimal · e) with
  | none => none
  | some x => some { x with negative := negative }

/-- The value of an integer numeral, if it fits into 64 bits. -/
def integerOf? (negative : Bool) (n : Nat) : Option Int :=
  if negative then
    if 0 < n ∧ n ≤ 0x8000000000000000 then some (-n) else none
  else
    if n ≤ maxSignificand then some n else none

/-- The value of a numeral in front of `rest`. -/
def Numeral.value (numeral : Numeral) (rest : Bytes) : Except Failure JsonNumber :=
  let (significand, more) := appendDigits maxSignificand 0 numeral.whole
  let real (significand : Nat) (e : Int) : Except Failure JsonNumber :=
    match realOf? numeral.negative significand e with
    | some x => .ok (.real x)
    | none => .error (.before .numberTooLarge rest)
  match numeral.fraction, numeral.exponent, more with
  | none, none, [] =>
    match integerOf? numeral.negative significand with
    | some n => .ok (.integer n)
    | none => real significand 0
  | fraction, exponent, more =>
    let digits := fraction.getD []
    let (significand, dropped) := appendDigits maxSignificand significand digits
    let start : Int := more.length - (digits.length - dropped.length : Nat)
    match exponent with
    | none => real significand start
    | some (negative, ds) =>
      match appendDigits maxExponent 0 ds with
      | (e, []) => real significand (if negative then start - e else start + e)
      | (_, _ :: ds) =>
        if significand ≠ 0 ∧ !negative then
          .error ⟨.numberTooLarge, rest.length + ds.length⟩
        else
          .ok (.real (.zero numeral.negative))

/-- Reads a number after its sign. -/
def readNumber (negative : Bool) (text : Bytes) : Except Failure (JsonNumber × Bytes) :=
  match readNumeral negative text with
  | .error failure => .error failure
  | .ok (numeral, rest) =>
    match numeral.value rest with
    | .error failure => .error failure
    | .ok n => .ok (n, rest)

theorem length_readNumber_lt {negative : Bool} {text rest : Bytes} {n : JsonNumber}
    (h : readNumber negative text = .ok (n, rest)) :
  rest.length < text.length
  := by
  unfold readNumber at h
  split at h
  · cases h
  · next hr =>
    have := length_readNumeral_lt hr
    split at h
    · cases h
    · cases h
      omega

end ChatPortal.Json
