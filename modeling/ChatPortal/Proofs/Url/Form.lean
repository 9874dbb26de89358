import ChatPortal.Proofs.Text.Utf8
import ChatPortal.Url.Form

/-!
# Queries are read back

`formDecode` reads back the pairs that `formEncode` writes, whatever characters their keys
and values hold (`formDecode_formEncode`): no key or value holds one of the signs that set
them apart, and each of their bytes is read back where it stands.
-/

namespace ChatPortal.Url

open Utf8

/-! ### Escaped bytes -/

theorem unescape_cons_of_ne {b : UInt8} (h : b ≠ 0x25) (rest : Bytes) :
  unescape (b :: rest) = b :: unescape rest
  := by
  rw [unescape, if_neg h]

theorem hexValue?_upperDigit {n : Nat} (h : n < 16) :
  hexValue? (UInt8.ofNat (upperDigit n).toNat) = some n
  := by
  revert n
  decide

theorem upperDigit_bounds {n : Nat} (h : n < 16) :
  (upperDigit n).toNat < 0x80 ∧ (upperDigit n).isAlphanum = true
  := by
  revert n
  decide

/-- An escaped byte stands for itself. -/
theorem unescape_escapeByte (b : UInt8) (rest : Bytes) :
  unescape (encode (escapeByte b) ++ rest) = b :: unescape rest
  := by
  have hbyte : b.toNat < 256 := b.toNat_lt
  have hhigh : b.toNat / 16 < 16 := by omega
  have hlow : b.toNat % 16 < 16 := by omega
  have hencode : encode (escapeByte b)
      = [0x25, UInt8.ofNat (upperDigit (b.toNat / 16)).toNat,
          UInt8.ofNat (upperDigit (b.toNat % 16)).toNat] := by
    rw [escapeByte, encode_cons, encode_cons, encode_cons, encode_nil,
      utf8EncodeChar_ascii (upperDigit_bounds hhigh).1,
      utf8EncodeChar_ascii (upperDigit_bounds hlow).1]
    rfl
  have hescaped : escaped?
      (UInt8.ofNat (upperDigit (b.toNat / 16)).toNat
        :: UInt8.ofNat (upperDigit (b.toNat % 16)).toNat :: rest) = some (b, rest) := by
    rw [escaped?, hexValue?_upperDigit hhigh, hexValue?_upperDigit hlow]
    simp only
    rw [Nat.div_add_mod' b.toNat 16, UInt8.ofNat_toNat]
  rw [hencode, List.cons_append, List.cons_append, List.cons_append, List.nil_append, unescape,
    if_pos rfl]
  split
  · next heq =>
    rw [hescaped] at heq
    obtain ⟨rfl, rfl⟩ := Prod.mk.inj (Option.some.inj heq)
    rfl
  · next heq =>
    rw [hescaped] at heq
    cases heq

/-- A text without characters of a set needs no escapes. -/
theorem escapeWhere_of_forall {set : Char → Bool} {text : List Char}
    (h : ∀ c ∈ text, set c = false) :
  escapeWhere set text = text
  := by
  induction text with
  | nil => rfl
  | cons c text ih =>
    rw [List.forall_mem_cons] at h
    rw [escapeWhere, List.flatMap_cons, h.1, if_neg Bool.false_ne_true, List.singleton_append]
    exact congrArg (c :: ·) (ih h.2)

/-! ### Keys and values -/

/-- The characters of keys and values as they stand in a query. -/
def isFormChar (c : Char) : Bool :=
  c.isAlphanum || "*-._+%".toList.contains c

/-- The characters of keys and values are visible ASCII. -/
theorem isFormChar_bounds {c : Char} (h : isFormChar c = true) :
  0x20 < c.toNat ∧ c.toNat < 0x7F
  := by
  rw [isFormChar, Bool.or_eq_true] at h
  rcases h with hletter | hmark
  · delta Char.isAlphanum Char.isAlpha Char.isUpper Char.isLower Char.isDigit at hletter
    simp only [Bool.or_eq_true, Bool.and_eq_true, decide_eq_true_eq, UInt32.le_iff_toNat_le,
      ge_iff_le, Char.reduceVal, UInt32.reduceToNat] at hletter
    have hvalue : c.toNat = c.val.toNat := rfl
    omega
  · have hall : "*-._+%".toList.all (fun d => 0x20 < d.toNat ∧ d.toNat < 0x7F) = true := by
      decide
    simpa using List.all_eq_true.mp hall c (by simpa using hmark)

/-- A byte that stands for itself is a character of ASCII, and neither of the two that
stand for something else. -/
theorem isPlain_bounds {b : UInt8} (h : isPlain b = true) :
  b.toNat < 0x80 ∧ b ≠ 0x25 ∧ Char.ofNat b.toNat ≠ '+'
    ∧ isFormChar (Char.ofNat b.toNat) = true
  := by
  have hall : ∀ n < 256, isPlain (UInt8.ofNat n) = true →
      n < 0x80 ∧ UInt8.ofNat n ≠ 0x25 ∧ Char.ofNat n ≠ '+'
        ∧ isFormChar (Char.ofNat n) = true := by
    decide +kernel
  have hb := hall b.toNat b.toNat_lt
  rw [UInt8.ofNat_toNat] at hb
  exact hb h

theorem isFormChar_of_mem_escapeByte {b : UInt8} {c : Char} (h : c ∈ escapeByte b) :
  isFormChar c = true
  := by
  have hbyte : b.toNat < 256 := b.toNat_lt
  have hdigit {n : Nat} (hn : n < 16) : isFormChar (upperDigit n) = true := by
    rw [isFormChar, (upperDigit_bounds hn).2, Bool.true_or]
  simp only [escapeByte, List.mem_cons, List.not_mem_nil, or_false] at h
  rcases h with rfl | rfl | rfl
  · decide
  · apply hdigit
    omega
  · apply hdigit
    omega

/-- A key or a value holds none of the signs that set keys and values apart. -/
theorem isFormChar_of_mem_formText {text : String} {c : Char} (h : c ∈ formText text) :
  isFormChar c = true
  := by
  obtain ⟨b, -, hc⟩ := List.mem_flatMap.mp h
  rw [formByte] at hc
  split at hc
  · obtain rfl := List.mem_singleton.mp hc
    decide
  · split at hc
    · next hplain =>
      obtain rfl := List.mem_singleton.mp hc
      exact (isPlain_bounds hplain).2.2.2
    · exact isFormChar_of_mem_escapeByte hc

/-- No escape holds a plus sign. -/
theorem unplus_escapeByte (b : UInt8) :
  unplus (escapeByte b) = escapeByte b
  := by
  have hbyte : b.toNat < 256 := b.toNat_lt
  have hdigit {n : Nat} (hn : n < 16) : upperDigit n ≠ '+' := by
    revert n
    decide
  have hhigh := hdigit (show b.toNat / 16 < 16 by omega)
  have hlow := hdigit (show b.toNat % 16 < 16 by omega)
  simp [unplus, escapeByte, hhigh, hlow]

/-- A byte of a key or a value is read back. -/
theorem unescape_formByte (b : UInt8) (rest : Bytes) :
  unescape (encode (unplus (formByte b)) ++ rest) = b :: unescape rest
  := by
  rw [formByte]
  split
  · next hspace =>
    subst hspace
    apply unescape_cons_of_ne
    decide
  · split
    · next hplain =>
      obtain ⟨hascii, hmark, hplus, -⟩ := isPlain_bounds hplain
      have hchar : (Char.ofNat b.toNat).toNat = b.toNat := by
        rw [Char.ofNat, dif_pos (.inl (by omega))]
        rfl
      have hencode : encode (unplus [Char.ofNat b.toNat]) = [b] := by
        rw [unplus, List.map_singleton, if_neg hplus, encode_cons, encode_nil,
          utf8EncodeChar_ascii (by omega), hchar, UInt8.ofNat_toNat, List.append_nil]
      rw [hencode, List.singleton_append, unescape_cons_of_ne hmark]
    · rw [unplus_escapeByte, unescape_escapeByte]

/-- A key or a value is read back. -/
@[simp]
theorem formValue_formText (text : String) :
  formValue (formText text) = text
  := by
  have hbytes (bytes : Bytes) :
      unescape (encode (unplus (bytes.flatMap formByte))) = bytes := by
    induction bytes with
    | nil => exact unescape.eq_1
    | cons b bytes ih =>
      rw [List.flatMap_cons, unplus, List.map_append, encode_append]
      exact (unescape_formByte b _).trans (congrArg (b :: ·) ih)
  rw [formValue, formText, hbytes, lossyText_bytesOf]

/-! ### Pairs -/

theorem pieces_of_forall {isSeparator : Char → Bool} {text : List Char}
    (h : ∀ c ∈ text, isSeparator c = false) :
  pieces isSeparator text = [text]
  := by
  induction text with
  | nil => rfl
  | cons c text ih =>
    rw [List.forall_mem_cons] at h
    simp [pieces, h.1, ih h.2]

theorem pieces_append_cons {isSeparator : Char → Bool} {piece : List Char} {c : Char}
    (h : ∀ c ∈ piece, isSeparator c = false) (hc : isSeparator c = true) (rest : List Char) :
  pieces isSeparator (piece ++ c :: rest) = piece :: pieces isSeparator rest
  := by
  induction piece with
  | nil => simp [pieces, hc]
  | cons d piece ih =>
    rw [List.forall_mem_cons] at h
    simp [pieces, h.1, ih h.2]

/-- Pieces are read back from a text that has a separator between them. -/
theorem pieces_intercalate {isSeparator : Char → Bool} {c : Char} (hc : isSeparator c = true)
    {texts : List (List Char)} (hne : texts ≠ [])
    (h : ∀ text ∈ texts, ∀ d ∈ text, isSeparator d = false) :
  pieces isSeparator ([c].intercalate texts) = texts
  := by
  induction texts with
  | nil => exact absurd rfl hne
  | cons text more ih =>
    rw [List.forall_mem_cons] at h
    cases more with
    | nil => simpa using pieces_of_forall h.1
    | cons next more =>
      rw [List.intercalate_cons_cons, List.append_assoc, List.singleton_append,
        pieces_append_cons h.1 hc, ih (by simp) h.2]

/-- A pair is read back. -/
theorem unpair_formPair (pair : String × String) :
  unpair (formPair pair) = pair
  := by
  have hkey : '=' ∉ formText pair.1 := by
    intro h
    cases isFormChar_of_mem_formText h
  simp [unpair, formPair, Text.cut_append_cons hkey]

theorem isFormChar_of_mem_formPair {pair : String × String} {c : Char}
    (h : c ∈ formPair pair) :
  isFormChar c = true ∨ c = '='
  := by
  rw [formPair, List.mem_append, List.mem_cons] at h
  rcases h with hkey | rfl | hvalue
  · exact .inl (isFormChar_of_mem_formText hkey)
  · exact .inr rfl
  · exact .inl (isFormChar_of_mem_formText hvalue)

/-- The characters of a query. -/
theorem isFormChar_of_mem_formEncode {pairs : List (String × String)} {c : Char}
    (h : c ∈ formEncode pairs) :
  isFormChar c = true ∨ c = '=' ∨ c = '&'
  := by
  have hpair {pair : String × String} (hc : c ∈ formPair pair) :
      isFormChar c = true ∨ c = '=' ∨ c = '&' :=
    (isFormChar_of_mem_formPair hc).imp_right .inl
  induction pairs with
  | nil => cases h
  | cons pair more ih =>
    cases more with
    | nil =>
      rw [formEncode, List.map_singleton, List.intercalate_singleton] at h
      exact hpair h
    | cons next more =>
      rw [formEncode, List.map_cons, List.map_cons, List.intercalate_cons_cons,
        List.append_assoc, List.mem_append, List.singleton_append, List.mem_cons] at h
      rcases h with hfirst | rfl | hmore
      · exact hpair hfirst
      · exact .inr (.inr rfl)
      · exact ih hmore

/-- Pairs are read back from a query. -/
@[simp]
theorem formDecode_formEncode (pairs : List (String × String)) :
  formDecode (formEncode pairs) = pairs
  := by
  cases hpairs : pairs with
  | nil => rfl
  | cons pair more =>
    have hpieces : pieces (· == '&') (formEncode pairs) = pairs.map formPair := by
      apply pieces_intercalate rfl (by simp [hpairs])
      intro text htext c hc
      obtain ⟨pair, -, rfl⟩ := List.mem_map.mp htext
      rw [beq_eq_false_iff_ne]
      rintro rfl
      obtain ⟨⟨⟩⟩ | ⟨⟨⟩⟩ := isFormChar_of_mem_formPair hc
    have hfilled : (pairs.map formPair).filter (· ≠ []) = pairs.map formPair := by
      rw [List.filter_eq_self]
      intro text htext
      obtain ⟨pair, -, rfl⟩ := List.mem_map.mp htext
      simp [formPair]
    rw [← hpairs, formDecode, hpieces, hfilled]
    simp [Function.comp_def, unpair_formPair]

end ChatPortal.Url
