import ChatPortal.Json.Number
import ChatPortal.Json.Printer
import ChatPortal.Proofs.Text.Utf8
import Mathlib.Data.Nat.Digits.Defs

/-!
# Integers are read back

`readNumber` reads an integer as `renderInt` writes it, where the text does not go on as a
numeral does (`readNumber_toDigits`).  The digits of a number do not begin with a zero, so the
reader takes all of them.
-/

namespace ChatPortal.Json

/-! ### Digits -/

/-- The value of the character of a digit. -/
def digitValue (c : Char) : Nat := c.toNat - '0'.toNat

/-- A digit is written in one byte, and read. -/
theorem digit?_of_isDigit {c : Char} (h : c.isDigit = true) :
  String.utf8EncodeChar c = [UInt8.ofNat c.toNat]
    ∧ Byte.digit? (UInt8.ofNat c.toNat) = some (digitValue c)
  := by
  have hrange : 48 ≤ c.toNat ∧ c.toNat ≤ 57 := Char.isDigit_iff_toNat.mp h
  have hbyte : (UInt8.ofNat c.toNat).toNat = c.toNat := Utf8.toNat_ofNat_of_lt (by omega)
  refine ⟨Utf8.utf8EncodeChar_ascii (by omega), ?_⟩
  rw [Byte.digit?, if_pos, hbyte]
  · rfl
  · rw [UInt8.le_iff_toNat_le, UInt8.le_iff_toNat_le, hbyte]
    exact hrange

theorem ne_of_digit {b c : UInt8} (hb : (Byte.digit? b).isSome = true)
    (hc : (Byte.digit? c).isSome = false) :
  b ≠ c
  := by
  rintro rfl
  cases hb.symm.trans hc

/-- The text does not go on as a numeral does: with a digit, a point or an exponent. -/
def EndsNumeral (text : Bytes) : Prop :=
  ∀ b ∈ text.head?, Byte.digit? b = none ∧ b ≠ Byte.point ∧ isExponentMark b = false

/-- Digits are read up to where they end. -/
theorem readDigits_digits {digits : List Char} {rest : Bytes}
    (hdigits : ∀ c ∈ digits, c.isDigit = true) (hrest : EndsNumeral rest) :
  readDigits (Utf8.encode digits ++ rest) = (digits.map digitValue, rest)
  := by
  induction digits with
  | nil =>
    cases rest with
    | nil => rfl
    | cons b rest =>
      have hb : Byte.digit? b = none := (hrest b rfl).1
      simp only [Utf8.encode_nil, List.nil_append, readDigits, hb, List.map_nil]
  | cons c digits ih =>
    rw [List.forall_mem_cons] at hdigits
    obtain ⟨hencode, hread⟩ := digit?_of_isDigit hdigits.1
    simp only [Utf8.encode_cons, hencode, List.cons_append, List.nil_append, readDigits, hread,
      ih hdigits.2, List.map_cons]

/-- More digits make no smaller number. -/
theorem le_ofDigitChars (digits : List Char) (n : Nat) :
  n ≤ Nat.ofDigitChars 10 digits n
  := by
  induction digits generalizing n with
  | nil => exact Nat.le_refl n
  | cons c digits ih =>
    rw [Nat.ofDigitChars_cons]
    have := ih (10 * n + (c.toNat - '0'.toNat))
    omega

/-- Digits are appended as long as their number is in reach. -/
theorem appendDigits_digits {limit n : Nat} {digits : List Char}
    (h : Nat.ofDigitChars 10 digits n ≤ limit) :
  appendDigits limit n (digits.map digitValue) = (Nat.ofDigitChars 10 digits n, [])
  := by
  induction digits generalizing n with
  | nil => rfl
  | cons c digits ih =>
    rw [Nat.ofDigitChars_cons, Nat.mul_comm] at h ⊢
    have hfits : n * 10 + digitValue c ≤ limit :=
      Nat.le_trans (le_ofDigitChars digits _) h
    rw [List.map_cons, appendDigits, if_pos hfits]
    exact ih h

/-- The digits of a positive number do not begin with a zero. -/
theorem toDigits_head_ne_zero {n : Nat} (h : 0 < n) :
  (Nat.toDigits 10 n).head? ≠ some '0'
  := by
  induction n using Nat.strongRecOn with
  | _ n ih =>
    by_cases hsmall : n < 10
    · rw [Nat.toDigits_of_lt_base hsmall]
      have hall : ∀ m < 10, 0 < m → [m.digitChar].head? ≠ some '0' := by decide
      exact hall n hsmall h
    · rw [Nat.toDigits_of_base_le (by decide) (by omega),
        List.head?_append, Option.or_of_isSome]
      · exact ih (n / 10) (by omega) (by omega)
      · rw [List.isSome_head?]
        exact Nat.toDigits_ne_nil

/-! ### Numerals -/

/-- The digits of a number are the whole part of a numeral. -/
theorem readWhole_toDigits (n : Nat) {rest : Bytes} (hrest : EndsNumeral rest) :
  readWhole (Utf8.encode (Nat.toDigits 10 n) ++ rest)
    = .ok ((Nat.toDigits 10 n).map digitValue, rest)
  := by
  rcases Nat.eq_zero_or_pos n with rfl | hpos
  · cases rest with
    | nil => rfl
    | cons b rest =>
      have hb : (Byte.digit? b).isSome = false := by
        rw [(hrest b rfl).1]
        rfl
      show (if (Byte.digit? b).isSome then _ else _) = _
      rw [if_neg (Bool.eq_false_iff.mp hb)]
      rfl
  · have hdigits : ∀ c ∈ Nat.toDigits 10 n, c.isDigit = true :=
      fun _ => Nat.isDigit_of_mem_toDigits (by decide) (by decide)
    have hhead := toDigits_head_ne_zero hpos
    cases htoDigits : Nat.toDigits 10 n with
    | nil => exact absurd htoDigits Nat.toDigits_ne_nil
    | cons c digits =>
      rw [htoDigits, List.forall_mem_cons] at hdigits
      rw [htoDigits] at hhead
      obtain ⟨hencode, hread⟩ := digit?_of_isDigit hdigits.1
      have hvalue : digitValue c ≠ 0 := by
        intro hzero
        have hrange : 48 ≤ c.toNat ∧ c.toNat ≤ 57 := Char.isDigit_iff_toNat.mp hdigits.1
        have hzero : c.toNat - 48 = 0 := hzero
        have hc : c.toNat = 48 := by omega
        exact hhead (congrArg some (Char.toNat_inj.mp hc))
      rw [Utf8.encode_cons, hencode, List.append_assoc, List.singleton_append, readWhole.eq_def]
      simp only [hread, readDigits_digits hdigits.2 hrest]
      rfl

/-- The digits of a number are a numeral. -/
theorem readNumeral_toDigits (negative : Bool) (n : Nat) {rest : Bytes}
    (hrest : EndsNumeral rest) :
  readNumeral negative (Utf8.encode (Nat.toDigits 10 n) ++ rest)
    = .ok (⟨negative, (Nat.toDigits 10 n).map digitValue, none, none⟩, rest)
  := by
  have hfraction : readFraction rest = .ok (none, rest) := by
    cases rest with
    | nil => rfl
    | cons b rest =>
      rw [readFraction.eq_def]
      split
      · next heq => exact absurd (List.cons.inj heq).1 (hrest b rfl).2.1
      · rfl
  have hexponent : readExponent rest = .ok (none, rest) := by
    cases rest with
    | nil => rfl
    | cons b rest =>
      rw [readExponent, (hrest b rfl).2.2]
      rfl
  rw [readNumeral, readWhole_toDigits n hrest]
  simp only [hfraction, hexponent]

/-- An integer that fits is read from its digits. -/
theorem readNumber_toDigits {negative : Bool} {n : Nat} {value : Int}
    (h : integerOf? negative n = some value) {rest : Bytes} (hrest : EndsNumeral rest) :
  readNumber negative (Utf8.encode (Nat.toDigits 10 n) ++ rest) = .ok (.integer value, rest)
  := by
  have hfits : Nat.ofDigitChars 10 (Nat.toDigits 10 n) 0 ≤ maxSignificand := by
    rw [Nat.ofDigitChars_ten_toDigits]
    rw [integerOf?] at h
    unfold maxSignificand at h ⊢
    split at h
    · split at h
      · omega
      · cases h
    · split at h
      · assumption
      · cases h
  have hdigits := appendDigits_digits hfits
  rw [Nat.ofDigitChars_ten_toDigits] at hdigits
  simp only [readNumber, readNumeral_toDigits negative n hrest, Numeral.value, hdigits, h]

end ChatPortal.Json
