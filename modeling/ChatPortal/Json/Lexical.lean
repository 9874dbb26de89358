import ChatPortal.Json.Issue
import ChatPortal.Json.Basic

/-!
# The words of JSON

Readers for blanks, fixed words, strings and numerals.  Each takes bytes off the front of
a text and returns what is left; the lemmas `length_…_le` say that what is left is never
longer than what was given.
-/

namespace ChatPortal.Json

namespace Byte

@[match_pattern] abbrev quote : UInt8 := 0x22
@[match_pattern] abbrev plus : UInt8 := 0x2B
@[match_pattern] abbrev comma : UInt8 := 0x2C
@[match_pattern] abbrev minus : UInt8 := 0x2D
@[match_pattern] abbrev point : UInt8 := 0x2E
@[match_pattern] abbrev zero : UInt8 := 0x30
@[match_pattern] abbrev colon : UInt8 := 0x3A
@[match_pattern] abbrev openBracket : UInt8 := 0x5B
@[match_pattern] abbrev backslash : UInt8 := 0x5C
@[match_pattern] abbrev closeBracket : UInt8 := 0x5D
@[match_pattern] abbrev openBrace : UInt8 := 0x7B
@[match_pattern] abbrev closeBrace : UInt8 := 0x7D

/-- The letter `c` of the ASCII range as a byte. -/
abbrev letter (c : Char) : UInt8 := c.toUInt8

/-- A blank between tokens. -/
def isBlank (b : UInt8) : Bool :=
  b == 0x20 || b == 0x0A || b == 0x09 || b == 0x0D

/-- The value of a decimal digit. -/
def digit? (b : UInt8) : Option Nat :=
  if 0x30 ≤ b ∧ b ≤ 0x39 then some (b.toNat - 0x30) else none

/-- The value of a hexadecimal digit of either case. -/
def hexDigit? (b : UInt8) : Option Nat :=
  if 0x30 ≤ b ∧ b ≤ 0x39 then some (b.toNat - 0x30)
  else if 0x41 ≤ b ∧ b ≤ 0x46 then some (b.toNat - 0x37)
  else if 0x61 ≤ b ∧ b ≤ 0x66 then some (b.toNat - 0x57)
  else none

end Byte

/-- The text without the blanks at its front. -/
def skipBlanks (text : Bytes) : Bytes :=
  text.dropWhile Byte.isBlank

theorem length_skipBlanks_le (text : Bytes) :
  (skipBlanks text).length ≤ text.length
  := (List.dropWhile_sublist _).length_le

theorem length_of_skipBlanks {text rest : Bytes} {b : UInt8} (h : skipBlanks text = b :: rest) :
  (b :: rest).length ≤ text.length
  := h ▸ length_skipBlanks_le text

/-- Reads the given bytes. -/
def readWord : (word : Bytes) → (text : Bytes) → Except Failure Bytes
  | [], text => .ok text
  | _ :: _, [] => .error ⟨.endInValue, 0⟩
  | w :: word, b :: text =>
    if b = w then readWord word text else .error (.before .expectedWord text)

/-- The rest of `null`, `true` and `false` after the first letter. -/
def afterFirst (word : String) : Bytes := (bytesOf word).drop 1

/-! ### Strings -/

/-- Reads four hexadecimal digits. -/
def readHex : Bytes → Except Failure (Nat × Bytes)
  | a :: b :: c :: d :: rest =>
    match Byte.hexDigit? a, Byte.hexDigit? b, Byte.hexDigit? c, Byte.hexDigit? d with
    | some a, some b, some c, some d => .ok (((a * 16 + b) * 16 + c) * 16 + d, rest)
    | _, _, _, _ => .error (.before .badEscape rest)
  | _ => .error ⟨.endInString, 0⟩

/-- Reads the second half of a pair of surrogates whose first half is `high`. -/
def readLowSurrogate (high : Nat) : Bytes → Except Failure (Nat × Bytes)
  | [] => .error ⟨.endInString, 0⟩
  | b :: rest =>
    if b ≠ Byte.backslash then
      .error (.before .halfSurrogate rest)
    else
      match rest with
      | [] => .error ⟨.endInString, 0⟩
      | c :: rest =>
        if c ≠ Byte.letter 'u' then
          .error (.before .halfSurrogate rest)
        else
          match readHex rest with
          | .error failure => .error failure
          | .ok (low, rest) =>
            if low < 0xDC00 ∨ 0xDFFF < low then
              .error (.before .loneSurrogate rest)
            else
              .ok ((high - 0xD800) * 0x400 + (low - 0xDC00) + 0x10000, rest)

/-- Reads a character given by its number, after the letter `u`. -/
def readNumbered (text : Bytes) : Except Failure (Bytes × Bytes) :=
  match readHex text with
  | .error failure => .error failure
  | .ok (code, rest) =>
    if 0xDC00 ≤ code ∧ code ≤ 0xDFFF then
      .error (.before .loneSurrogate rest)
    else if code < 0xD800 ∨ 0xDBFF < code then
      .ok (String.utf8EncodeChar (Char.ofNat code), rest)
    else
      match readLowSurrogate code rest with
      | .error failure => .error failure
      | .ok (code, rest) => .ok (String.utf8EncodeChar (Char.ofNat code), rest)

/-- The byte that an escape by one letter stands for. -/
def unescape? (b : UInt8) : Option UInt8 :=
  if b = Byte.quote ∨ b = Byte.backslash ∨ b = Byte.letter '/' then some b
  else if b = Byte.letter 'b' then some 0x08
  else if b = Byte.letter 'f' then some 0x0C
  else if b = Byte.letter 'n' then some 0x0A
  else if b = Byte.letter 'r' then some 0x0D
  else if b = Byte.letter 't' then some 0x09
  else none

/-- Reads an escape after its backslash, and returns the bytes it stands for. -/
def readEscape : Bytes → Except Failure (Bytes × Bytes)
  | [] => .error ⟨.endInString, 0⟩
  | b :: rest =>
    match unescape? b with
    | some c => .ok ([c], rest)
    | none =>
      if b = Byte.letter 'u' then readNumbered rest else .error (.before .badEscape rest)

theorem length_readHex_le {text rest : Bytes} {n : Nat} (h : readHex text = .ok (n, rest)) :
  rest.length ≤ text.length
  := by
  unfold readHex at h
  split at h
  · split at h
    · cases h
      simp
      omega
    · cases h
  · cases h

theorem length_readLowSurrogate_le
    {text rest : Bytes} {high n : Nat} (h : readLowSurrogate high text = .ok (n, rest)) :
  rest.length ≤ text.length
  := by
  unfold readLowSurrogate at h
  split at h
  · cases h
  · split at h
    · cases h
    · split at h
      · cases h
      · split at h
        · cases h
        · split at h
          · cases h
          · next hr =>
            have := length_readHex_le hr
            split at h
            · cases h
            · cases h
              simp
              omega

theorem length_readNumbered_le
    {text rest out : Bytes} (h : readNumbered text = .ok (out, rest)) :
  rest.length ≤ text.length
  := by
  unfold readNumbered at h
  split at h
  · cases h
  · next hr =>
    have := length_readHex_le hr
    split at h
    · cases h
    · split at h
      · cases h
        omega
      · split at h
        · cases h
        · next hl =>
          have := length_readLowSurrogate_le hl
          cases h
          omega

theorem length_readEscape_le {text rest out : Bytes} (h : readEscape text = .ok (out, rest)) :
  rest.length ≤ text.length
  := by
  unfold readEscape at h
  split at h
  · cases h
  · split at h
    · cases h
      simp
    · split at h
      · have := length_readNumbered_le h
        simp
        omega
      · cases h

/-- Reads the bytes of a string after its opening quote. -/
def readQuoted : Bytes → Except Failure (Bytes × Bytes)
  | [] => .error ⟨.endInString, 0⟩
  | b :: rest =>
    if b = Byte.quote then
      .ok ([], rest)
    else if b = Byte.backslash then
      match _ : readEscape rest with
      | .error failure => .error failure
      | .ok (out, rest) =>
        match readQuoted rest with
        | .error failure => .error failure
        | .ok (more, rest) => .ok (out ++ more, rest)
    else if b < 0x20 then
      .error (.before .controlCharacter rest)
    else
      match readQuoted rest with
      | .error failure => .error failure
      | .ok (more, rest) => .ok (b :: more, rest)
termination_by text => text.length
decreasing_by
  · next h =>
    have := length_readEscape_le h
    simp
    omega
  · simp

/-- Reads a string after its opening quote.  Escapes are ASCII, so a string that is not
UTF-8 is broken where its text is. -/
def readString (text : Bytes) : Except Failure (String × Bytes) :=
  match readQuoted text with
  | .error failure => .error failure
  | .ok (bytes, rest) =>
    match textOf? bytes with
    | some s => .ok (s, rest)
    | none => .error (.after .badCharacter (text.drop (Utf8.intact text)))

theorem length_readQuoted_lt {text rest out : Bytes} (h : readQuoted text = .ok (out, rest)) :
  rest.length < text.length
  := by
  fun_induction readQuoted text generalizing out rest with
  | case1 => cases h
  | case2 =>
    cases h
    simp
  | case3 => cases h
  | case4 => cases h
  | case5 text out left he more rest' hr hslash ih =>
    have := length_readEscape_le he
    have := ih hr
    cases h
    simp
    omega
  | case6 => cases h
  | case7 => cases h
  | case8 b text hquote hslash hcontrol more left hr ih =>
    have := ih hr
    cases h
    simp
    omega

theorem length_readString_lt {text rest : Bytes} {s : String}
    (h : readString text = .ok (s, rest)) :
  rest.length < text.length
  := by
  unfold readString at h
  split at h
  · cases h
  · next hr =>
    have := length_readQuoted_lt hr
    split at h
    · cases h
      omega
    · cases h

/-- Passes over an escape after its backslash. -/
def skipEscape : Bytes → Except Failure Bytes
  | [] => .error ⟨.endInString, 0⟩
  | b :: rest =>
    if (unescape? b).isSome then .ok rest
    else if b = Byte.letter 'u' then
      match readHex rest with
      | .error failure => .error failure
      | .ok (_, rest) => .ok rest
    else .error (.before .badEscape rest)

theorem length_skipEscape_le {text rest : Bytes} (h : skipEscape text = .ok rest) :
  rest.length ≤ text.length
  := by
  unfold skipEscape at h
  split at h
  · cases h
  · split at h
    · cases h
      simp
    · split at h
      · split at h
        · cases h
        · next hr =>
          have := length_readHex_le hr
          cases h
          simp
          omega
      · cases h

/-- Passes over a string after its opening quote; what the string says is not looked
at. -/
def skipQuoted : Bytes → Except Failure Bytes
  | [] => .error ⟨.endInString, 0⟩
  | b :: rest =>
    if b = Byte.quote then
      .ok rest
    else if b = Byte.backslash then
      match _ : skipEscape rest with
      | .error failure => .error failure
      | .ok rest => skipQuoted rest
    else if b < 0x20 then
      .error (.before .controlCharacter (b :: rest))
    else
      skipQuoted rest
termination_by text => text.length
decreasing_by
  · next h =>
    have := length_skipEscape_le h
    simp
    omega
  · simp

theorem length_skipQuoted_lt {text rest : Bytes} (h : skipQuoted text = .ok rest) :
  rest.length < text.length
  := by
  fun_induction skipQuoted text with
  | case1 => cases h
  | case2 =>
    cases h
    simp
  | case3 => cases h
  | case4 text left he hslash ih =>
    have := length_skipEscape_le he
    have := ih h
    simp
    omega
  | case5 => cases h
  | case6 b text hquote hslash hcontrol ih =>
    have := ih h
    simp
    omega

/-! ### Numerals -/

/-- A numeral as it is written: sign, digits before and after the point, and the sign and
digits of the exponent. -/
structure Numeral where
  negative : Bool
  whole : List Nat
  fraction : Option (List Nat)
  exponent : Option (Bool × List Nat)
deriving Repr

/-- The digits at the front of a text. -/
def readDigits : Bytes → List Nat × Bytes
  | [] => ([], [])
  | b :: rest =>
    match Byte.digit? b with
    | some d => (d :: (readDigits rest).1, (readDigits rest).2)
    | none => ([], b :: rest)

theorem length_readDigits_le (text : Bytes) :
  (readDigits text).2.length ≤ text.length
  := by
  induction text with
  | nil => simp [readDigits]
  | cons b rest ih =>
    simp only [readDigits]
    split
    · simp
      omega
    · simp

/-- Reads the digits before the point: a zero, or digits that do not begin with one. -/
def readWhole : Bytes → Except Failure (List Nat × Bytes)
  | [] => .error ⟨.endInValue, 0⟩
  | b :: rest =>
    match Byte.digit? b with
    | none => .error (.before .badNumber rest)
    | some 0 =>
      match rest with
      | [] => .ok ([0], [])
      | c :: _ =>
        if (Byte.digit? c).isSome then .error (.after .badNumber rest) else .ok ([0], rest)
    | some d => .ok (d :: (readDigits rest).1, (readDigits rest).2)

/-- Reads a point and the digits after it, if there is a point. -/
def readFraction : Bytes → Except Failure (Option (List Nat) × Bytes)
  | Byte.point :: rest =>
    match readDigits rest with
    | ([], []) => .error ⟨.endInValue, 0⟩
    | ([], _ :: rest) => .error (.before .badNumber rest)
    | (ds, rest) => .ok (some ds, rest)
  | text => .ok (none, text)

/-- The letter that introduces an exponent. -/
def isExponentMark (b : UInt8) : Bool :=
  b == Byte.letter 'e' || b == Byte.letter 'E'

/-- The sign of an exponent, and whether it is negative. -/
def readSign : Bytes → Bool × Bytes
  | Byte.plus :: rest => (false, rest)
  | Byte.minus :: rest => (true, rest)
  | text => (false, text)

theorem length_readSign_le (text : Bytes) :
  (readSign text).2.length ≤ text.length
  := by
  unfold readSign
  split
  · simp
  · simp
  · simp

/-- Reads an exponent, if there is one. -/
def readExponent : Bytes → Except Failure (Option (Bool × List Nat) × Bytes)
  | [] => .ok (none, [])
  | b :: rest =>
    if isExponentMark b then
      match readSign rest with
      | (_, []) => .error ⟨.endInValue, 0⟩
      | (negative, c :: rest) =>
        match Byte.digit? c with
        | none => .error (.before .badNumber rest)
        | some d => .ok (some (negative, d :: (readDigits rest).1), (readDigits rest).2)
    else
      .ok (none, b :: rest)

/-- Reads a numeral after its sign. -/
def readNumeral (negative : Bool) (text : Bytes) : Except Failure (Numeral × Bytes) :=
  match readWhole text with
  | .error failure => .error failure
  | .ok (whole, rest) =>
    match readFraction rest with
    | .error failure => .error failure
    | .ok (fraction, rest) =>
      match readExponent rest with
      | .error failure => .error failure
      | .ok (exponent, rest) => .ok (⟨negative, whole, fraction, exponent⟩, rest)

theorem length_readWhole_lt {text rest : Bytes} {ds : List Nat}
    (h : readWhole text = .ok (ds, rest)) :
  rest.length < text.length
  := by
  unfold readWhole at h
  split at h
  · cases h
  · split at h
    · cases h
    · split at h
      · cases h
        simp
      · split at h
        · cases h
        · cases h
          simp
    · next rest' _ _ _ _ =>
      have := length_readDigits_le rest'
      cases h
      simp
      omega

theorem length_readFraction_le {text rest : Bytes} {ds : Option (List Nat)}
    (h : readFraction text = .ok (ds, rest)) :
  rest.length ≤ text.length
  := by
  unfold readFraction at h
  split at h
  · next rest' =>
    have := length_readDigits_le rest'
    split at h
    · cases h
    · cases h
    · next hd =>
      rw [hd] at this
      cases h
      simp at this ⊢
      omega
  · cases h
    simp

theorem length_readExponent_le {text rest : Bytes} {e : Option (Bool × List Nat)}
    (h : readExponent text = .ok (e, rest)) :
  rest.length ≤ text.length
  := by
  unfold readExponent at h
  split at h
  · cases h
    simp
  · split at h
    · next rest' _ =>
      have hs := length_readSign_le rest'
      split at h
      · cases h
      · next hr =>
        rw [hr] at hs
        split at h
        · cases h
        · next rest'' _ _ _ =>
          have := length_readDigits_le rest''
          cases h
          simp at hs ⊢
          omega
    · cases h
      simp

theorem length_readNumeral_lt {negative : Bool} {text rest : Bytes} {numeral : Numeral}
    (h : readNumeral negative text = .ok (numeral, rest)) :
  rest.length < text.length
  := by
  unfold readNumeral at h
  split at h
  · cases h
  · next hw =>
    have := length_readWhole_lt hw
    split at h
    · cases h
    · next hf =>
      have := length_readFraction_le hf
      split at h
      · cases h
      · next he =>
        have := length_readExponent_le he
        cases h
        omega

/-- Passes over a numeral after its sign; here the text must not end in the middle of
it. -/
def skipNumeral (text : Bytes) : Except Failure Bytes :=
  match readNumeral false text with
  | .ok (_, rest) => .ok rest
  | .error ⟨.endInValue, left⟩ => .error ⟨.badNumber, left⟩
  | .error failure => .error failure

theorem length_skipNumeral_lt {text rest : Bytes} (h : skipNumeral text = .ok rest) :
  rest.length < text.length
  := by
  unfold skipNumeral at h
  split at h
  · next hr =>
    have := length_readNumeral_lt hr
    cases h
    omega
  · cases h
  · cases h

end ChatPortal.Json
