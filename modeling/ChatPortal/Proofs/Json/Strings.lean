import ChatPortal.Json.Lexical
import ChatPortal.Json.Printer
import ChatPortal.Proofs.Text.Utf8

/-!
# Strings are read back

`readString` reads a string after the quote that opens it as `quote` writes it, in front of
anything (`readString_quote`).  What stands for one character is read as the bytes of that
character (`readQuoted_escape`): it is either an escape or the character itself, in which there
is no byte that means something else.
-/

namespace ChatPortal.Json

/-! ### Bytes -/

/-- The byte stands for itself in a string. -/
def Byte.IsPlain (b : UInt8) : Prop :=
  b ≠ Byte.quote ∧ b ≠ Byte.backslash ∧ ¬ b < 0x20

theorem readQuoted_plain {b : UInt8} (h : Byte.IsPlain b) {text out rest : Bytes}
    (htext : readQuoted text = .ok (out, rest)) :
  readQuoted (b :: text) = .ok (b :: out, rest)
  := by
  rw [readQuoted, if_neg h.1, if_neg h.2.1, if_neg h.2.2, htext]

/-- Plain bytes are read as themselves. -/
theorem readQuoted_append_plain {bytes : Bytes} (h : ∀ b ∈ bytes, Byte.IsPlain b)
    {text out rest : Bytes} (htext : readQuoted text = .ok (out, rest)) :
  readQuoted (bytes ++ text) = .ok (bytes ++ out, rest)
  := by
  induction bytes with
  | nil => exact htext
  | cons b bytes ih =>
    rw [List.forall_mem_cons] at h
    exact readQuoted_plain h.1 (ih h.2)

/-- An escape is read as the bytes it stands for. -/
theorem readQuoted_backslash {text bytes more out rest : Bytes}
    (hescape : readEscape text = .ok (bytes, more)) (hmore : readQuoted more = .ok (out, rest)) :
  readQuoted (Byte.backslash :: text) = .ok (bytes ++ out, rest)
  := by
  rw [readQuoted, if_neg (by decide), if_pos rfl]
  split
  · next failure heq =>
    rw [hescape] at heq
    cases heq
  · next heq =>
    rw [hescape] at heq
    cases heq
    rw [hmore]

/-! ### Escapes -/

theorem hexDigit?_hexDigit {n : Nat} (h : n < 16) :
  String.utf8EncodeChar (hexDigit n) = [UInt8.ofNat (hexDigit n).toNat]
    ∧ Byte.hexDigit? (UInt8.ofNat (hexDigit n).toNat) = some n
  := by
  have hall : ∀ n < 16, (hexDigit n).toNat < 0x80
      ∧ Byte.hexDigit? (UInt8.ofNat (hexDigit n).toNat) = some n := by
    decide
  exact ⟨Utf8.utf8EncodeChar_ascii (hall n h).1, (hall n h).2⟩

/-- A control character is read from its number. -/
theorem readEscape_control {c : Char} (h : c.toNat < 0x20) (text : Bytes) :
  readEscape (Utf8.encode ['u', '0', '0', hexDigit (c.toNat / 16), hexDigit (c.toNat % 16)]
      ++ text)
    = .ok (String.utf8EncodeChar c, text)
  := by
  obtain ⟨hhigh, hreadHigh⟩ := hexDigit?_hexDigit (n := c.toNat / 16) (by omega)
  obtain ⟨hlow, hreadLow⟩ := hexDigit?_hexDigit (n := c.toNat % 16) (by omega)
  have hbytes : Utf8.encode ['u', '0', '0', hexDigit (c.toNat / 16), hexDigit (c.toNat % 16)]
      = [Byte.letter 'u', Byte.zero, Byte.zero, UInt8.ofNat (hexDigit (c.toNat / 16)).toNat,
        UInt8.ofNat (hexDigit (c.toNat % 16)).toNat] := by
    simp only [Utf8.encode_cons, Utf8.encode_nil, hhigh, hlow]
    rfl
  have hhex : readHex (Byte.zero :: Byte.zero :: UInt8.ofNat (hexDigit (c.toNat / 16)).toNat
        :: UInt8.ofNat (hexDigit (c.toNat % 16)).toNat :: text)
      = .ok (c.toNat, text) := by
    have hzero : Byte.hexDigit? Byte.zero = some 0 := rfl
    simp only [readHex, hzero, hreadHigh, hreadLow]
    rw [show ((0 * 16 + 0) * 16 + c.toNat / 16) * 16 + c.toNat % 16 = c.toNat by omega]
  have hletter : unescape? (Byte.letter 'u') = none := rfl
  simp only [hbytes, List.cons_append, List.nil_append, readEscape, hletter, readNumbered, hhex]
  rw [if_pos True.intro, if_neg (by omega), if_pos (by omega), Char.ofNat_toNat]

/-- There is no control character, quote or backslash among the bytes of another
character. -/
theorem isPlain_of_mem_utf8EncodeChar {c : Char} (hquote : c ≠ '"') (hslash : c ≠ '\\')
    (hcontrol : ¬ c.toNat < 0x20) {b : UInt8} (hb : b ∈ String.utf8EncodeChar c) :
  Byte.IsPlain b
  := by
  have hnat : b.toNat ≠ 0x22 ∧ b.toNat ≠ 0x5C ∧ 0x20 ≤ b.toNat := by
    by_cases hascii : c.toNat < 0x80
    · have hquote : c.toNat ≠ 0x22 := fun h => hquote (Char.toNat_inj.mp h)
      have hslash : c.toNat ≠ 0x5C := fun h => hslash (Char.toNat_inj.mp h)
      rw [Utf8.utf8EncodeChar_ascii hascii, List.mem_singleton] at hb
      rw [hb, Utf8.toNat_ofNat_of_lt (by omega)]
      omega
    · have := Utf8.le_of_mem_utf8EncodeChar (by omega) hb
      omega
  refine ⟨?_, ?_, ?_⟩
  · rintro rfl
    exact hnat.1 rfl
  · rintro rfl
    exact hnat.2.1 rfl
  · rw [UInt8.lt_iff_toNat_lt]
    exact Nat.not_lt.mpr hnat.2.2

/-- What stands for a character is read as the character. -/
theorem readQuoted_escape (c : Char) {text out rest : Bytes}
    (htext : readQuoted text = .ok (out, rest)) :
  readQuoted (Utf8.encode (escape c) ++ text) = .ok (String.utf8EncodeChar c ++ out, rest)
  := by
  fun_cases escape c
  case case8 hcontrol =>
    exact readQuoted_backslash (readEscape_control hcontrol text) htext
  case case9 hquote hslash _ _ _ _ _ hcontrol =>
    rw [Utf8.encode_cons, Utf8.encode_nil, List.append_nil]
    exact readQuoted_append_plain
      (fun _ => isPlain_of_mem_utf8EncodeChar hquote hslash hcontrol) htext
  all_goals
    subst c
    exact readQuoted_backslash rfl htext

/-! ### Strings -/

/-- A string is read back after the quote that opens it, as it is written. -/
theorem readString_quote (text : String) (rest : Bytes) :
  readString (Utf8.encode (text.toList.flatMap escape ++ ['"']) ++ rest) = .ok (text, rest)
  := by
  have hquoted (cs : List Char) :
      readQuoted (Utf8.encode (cs.flatMap escape ++ ['"']) ++ rest)
        = .ok (Utf8.encode cs, rest) := by
    induction cs with
    | nil =>
      show readQuoted (Byte.quote :: rest) = _
      rw [readQuoted, if_pos rfl, Utf8.encode_nil]
    | cons c cs ih =>
      rw [List.flatMap_cons, List.append_assoc, Utf8.encode_append, List.append_assoc,
        readQuoted_escape c ih, Utf8.encode_cons]
  have htext : textOf? (Utf8.encode text.toList) = some text := textOf?_bytesOf text
  rw [readString, hquoted]
  simp only [htext]

end ChatPortal.Json
