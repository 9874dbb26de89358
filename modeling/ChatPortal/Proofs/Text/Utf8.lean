import ChatPortal.Text.Utf8

/-!
# Encoded text is read back

What `Utf8.encode` writes, `Utf8.scan` reads back character by character, in front of
anything (`Utf8.scan_encode_append`).  So nothing in an encoded text is broken, and both
`textOf?` and `lossyText` give back the text of `bytesOf`.
-/

namespace ChatPortal

namespace Utf8

theorem toNat_ofNat_of_lt {n : Nat} (h : n < 256) :
  (UInt8.ofNat n).toNat = n
  := by
  rw [UInt8.toNat_ofNat']
  exact Nat.mod_eq_of_lt h

theorem utf8EncodeChar_ascii {c : Char} (h : c.toNat < 0x80) :
  String.utf8EncodeChar c = [UInt8.ofNat c.toNat]
  := if_pos (Nat.le_of_lt_succ h)

/-- Outside of ASCII there is no byte of ASCII in a character. -/
theorem le_of_mem_utf8EncodeChar {c : Char} (h : 0x80 ≤ c.toNat) {b : UInt8}
    (hb : b ∈ String.utf8EncodeChar c) :
  0x80 ≤ b.toNat
  := by
  have hvalue : 0x80 ≤ c.val.toNat := h
  rw [String.utf8EncodeChar.eq_def] at hb
  generalize c.val.toNat = v at hb hvalue
  simp only at hb
  split at hb
  · omega
  · split at hb
    · simp only [List.mem_cons, List.not_mem_nil, or_false] at hb
      rcases hb with rfl | rfl
      all_goals
        rw [toNat_ofNat_of_lt (by omega)]
        omega
    · split at hb
      · simp only [List.mem_cons, List.not_mem_nil, or_false] at hb
        rcases hb with rfl | rfl | rfl
        all_goals
          rw [toNat_ofNat_of_lt (by omega)]
          omega
      · simp only [List.mem_cons, List.not_mem_nil, or_false] at hb
        rcases hb with rfl | rfl | rfl | rfl
        all_goals
          rw [toNat_ofNat_of_lt (by omega)]
          omega

/-! ### First bytes -/

namespace Lead

theorem ofByte?_one {n : Nat} (h : n < 0x80) :
  ofByte? (UInt8.ofNat n) = some ⟨0, 0x80, 0xBF, n⟩
  := by
  simp only [ofByte?, toNat_ofNat_of_lt (show n < 256 by omega)]
  rw [if_pos h]

theorem ofByte?_two {n : Nat} (hlow : 2 ≤ n) (hhigh : n < 32) :
  ofByte? (UInt8.ofNat (n + 192)) = some ⟨1, 0x80, 0xBF, n⟩
  := by
  simp only [ofByte?, toNat_ofNat_of_lt (show n + 192 < 256 by omega)]
  rw [if_neg (by omega), if_neg (by omega), if_pos (by omega), Nat.add_sub_cancel]

/-- A character of three bytes begins with its four highest bits.  The next six are in
range if it needs three bytes and is no surrogate. -/
theorem ofByte?_three {n m : Nat} (hn : n < 16) (hm : m < 64) (hlow : 32 ≤ n * 64 + m)
    (hscalar : n = 13 → m < 32) :
  ∃ low high, ofByte? (UInt8.ofNat (n + 224)) = some ⟨2, low, high, n⟩
    ∧ low ≤ m + 128 ∧ m + 128 ≤ high
  := by
  simp only [ofByte?, toNat_ofNat_of_lt (show n + 224 < 256 by omega)]
  rw [if_neg (by omega), if_neg (by omega), if_neg (by omega)]
  split
  · obtain rfl : n = 0 := by omega
    exact ⟨_, _, rfl, by omega, by omega⟩
  · split
    · obtain rfl : n = 13 := by omega
      exact ⟨_, _, rfl, by omega, by omega⟩
    · rw [if_pos (by omega), Nat.add_sub_cancel]
      exact ⟨_, _, rfl, by omega, by omega⟩

/-- A character of four bytes begins with its three highest bits.  The next six are in
range if it needs four bytes and there is such a character. -/
theorem ofByte?_four {n m : Nat} (hm : m < 64) (hlow : 16 ≤ n * 64 + m)
    (hhigh : n * 64 + m < 272) :
  ∃ low high, ofByte? (UInt8.ofNat (n + 240)) = some ⟨3, low, high, n⟩
    ∧ low ≤ m + 128 ∧ m + 128 ≤ high
  := by
  simp only [ofByte?, toNat_ofNat_of_lt (show n + 240 < 256 by omega)]
  rw [if_neg (by omega), if_neg (by omega), if_neg (by omega), if_neg (by omega),
    if_neg (by omega), if_neg (by omega)]
  split
  · obtain rfl : n = 0 := by omega
    exact ⟨_, _, rfl, by omega, by omega⟩
  · split
    · rw [Nat.add_sub_cancel]
      exact ⟨_, _, rfl, by omega, by omega⟩
    · obtain rfl : n = 4 := by omega
      exact ⟨_, _, rfl, by omega, by omega⟩

end Lead

/-! ### Characters -/

theorem continuation_cons {n low high : Nat} (count bits : Nat) (rest : Bytes)
    (hn : n < 64) (hlow : low ≤ n + 128) (hhigh : n + 128 ≤ high) :
  continuation (count + 1) low high bits (UInt8.ofNat (n + 128) :: rest)
    = continuation count 0x80 0xBF (bits * 64 + n) rest
  := by
  have hbyte : (UInt8.ofNat (n + 128)).toNat = n + 128 := toNat_ofNat_of_lt (by omega)
  rw [continuation, hbyte, if_pos ⟨hlow, hhigh⟩, Nat.add_sub_cancel]

/-- The bytes of a character are read back. -/
theorem front_utf8EncodeChar (c : Char) (rest : Bytes) :
  ∃ b tail, String.utf8EncodeChar c = b :: tail ∧ front b (tail ++ rest) = (some c, rest)
  := by
  have hc : Char.ofNat c.val.toNat = c := Char.ofNat_toNat c
  have hvalid : c.val.toNat < 0xD800 ∨ 0xDFFF < c.val.toNat ∧ c.val.toNat < 0x110000 := c.valid
  rw [String.utf8EncodeChar.eq_def]
  generalize c.val.toNat = v at hc hvalid
  simp only
  split
  · refine ⟨_, _, rfl, ?_⟩
    simp [front, Lead.ofByte?_one (show v < 0x80 by omega), continuation, hc]
  · split
    · have hcode : v / 64 % 32 * 64 + v % 64 = v := by omega
      refine ⟨_, _, rfl, ?_⟩
      simp only [front, Lead.ofByte?_two (show 2 ≤ v / 64 % 32 by omega) (by omega),
        List.cons_append, List.nil_append]
      rw [continuation_cons _ _ _ (by omega) (by omega) (by omega), hcode, continuation,
        Option.map_some, hc]
    · split
      · obtain ⟨low, high, hlead, hlow, hhigh⟩ :=
          Lead.ofByte?_three (n := v / 4096 % 16) (m := v / 64 % 64) (by omega) (by omega)
            (by omega) (by omega)
        have hcode : (v / 4096 % 16 * 64 + v / 64 % 64) * 64 + v % 64 = v := by omega
        refine ⟨_, _, rfl, ?_⟩
        simp only [front, hlead, List.cons_append, List.nil_append]
        rw [continuation_cons _ _ _ (by omega) hlow hhigh,
          continuation_cons _ _ _ (by omega) (by omega) (by omega), hcode, continuation,
          Option.map_some, hc]
      · obtain ⟨low, high, hlead, hlow, hhigh⟩ :=
          Lead.ofByte?_four (n := v / 262144 % 8) (m := v / 4096 % 64) (by omega) (by omega)
            (by omega)
        have hcode : ((v / 262144 % 8 * 64 + v / 4096 % 64) * 64 + v / 64 % 64) * 64 + v % 64
            = v := by omega
        refine ⟨_, _, rfl, ?_⟩
        simp only [front, hlead, List.cons_append, List.nil_append]
        rw [continuation_cons _ _ _ (by omega) hlow hhigh,
          continuation_cons _ _ _ (by omega) (by omega) (by omega),
          continuation_cons _ _ _ (by omega) (by omega) (by omega), hcode, continuation,
          Option.map_some, hc]

/-! ### Texts -/

/-- The characters of an encoded text are read back in front of anything. -/
theorem scan_encode_append (text : List Char) (rest : Bytes) :
  scan (encode text ++ rest) = text.map some ++ scan rest
  := by
  induction text with
  | nil => rfl
  | cons c text ih =>
    obtain ⟨b, tail, hencode, hfront⟩ := front_utf8EncodeChar c (encode text ++ rest)
    rw [encode_cons, hencode, List.append_assoc, List.cons_append, scan, hfront, ih,
      List.map_cons, List.cons_append]

@[simp]
theorem scan_encode (text : List Char) :
  scan (encode text) = text.map some
  := by
  have h := scan_encode_append text []
  rwa [List.append_nil, scan, List.append_nil] at h

/-- An encoded text is UTF-8. -/
@[simp]
theorem decode?_encode (text : List Char) :
  decode? (encode text) = some text
  := by
  rw [decode?, scan_encode]
  induction text with
  | nil => rfl
  | cons c text ih => simp [ih]

/-- Nothing is broken in an encoded text. -/
@[simp]
theorem decodeLossy_encode (text : List Char) :
  decodeLossy (encode text) = text
  := by
  simp [decodeLossy, Function.comp_def]

end Utf8

/-- A text is read back from its bytes. -/
@[simp]
theorem textOf?_bytesOf (text : String) :
  textOf? (bytesOf text) = some text
  := by
  simp [textOf?, bytesOf]

@[simp]
theorem lossyText_bytesOf (text : String) :
  lossyText (bytesOf text) = text
  := by
  simp [lossyText, bytesOf]

end ChatPortal
