import ChatPortal.Proofs.Text.Utf8
import ChatPortal.Text.Boundary

/-!
# Texts are cut between characters

The boundaries of an encoded text are the places behind its fronts (`Utf8.isBoundary_iff`), and
the backward search for a boundary always finds the last one (`Utf8.exists_boundary?`).  So what
is cut off there is the longest front of the text that has not too many bytes
(`Utf8.exists_slice?`), and it lacks three of them at most (`Utf8.IsLongestFront.lt_add_four`).
-/

namespace ChatPortal.Utf8

/-! ### The bytes of a character -/

/-- The byte continues a character. -/
def IsContinuation (b : UInt8) : Prop :=
  0x80 ≤ b.toNat ∧ b.toNat < 0xC0

/-- The first byte of a character does not continue one, and all others do. -/
theorem exists_utf8EncodeChar_eq_cons (c : Char) :
  ∃ b tail, String.utf8EncodeChar c = b :: tail ∧ ¬ IsContinuation b
    ∧ ∀ d ∈ tail, IsContinuation d
  := by
  rw [String.utf8EncodeChar.eq_def]
  generalize c.val.toNat = v
  have hcontinues (n : Nat) : IsContinuation (UInt8.ofNat (n % 64 + 128)) := by
    rw [IsContinuation, toNat_ofNat_of_lt (by omega)]
    omega
  have hbegins {n : Nat} (h : n < 0x80 ∨ 0xC0 ≤ n) (hbyte : n < 256) :
      ¬ IsContinuation (UInt8.ofNat n) := by
    rw [IsContinuation, toNat_ofNat_of_lt hbyte]
    omega
  simp only
  split
  · exact ⟨_, _, rfl, hbegins (by omega) (by omega), nofun⟩
  · split
    · refine ⟨_, _, rfl, hbegins (by omega) (by omega), ?_⟩
      simp only [List.forall_mem_cons]
      exact ⟨hcontinues _, nofun⟩
    · split
      · refine ⟨_, _, rfl, hbegins (by omega) (by omega), ?_⟩
        simp only [List.forall_mem_cons]
        exact ⟨hcontinues _, hcontinues _, nofun⟩
      · refine ⟨_, _, rfl, hbegins (by omega) (by omega), ?_⟩
        simp only [List.forall_mem_cons]
        exact ⟨hcontinues _, hcontinues _, hcontinues _, nofun⟩

theorem length_utf8EncodeChar_bounds (c : Char) :
  0 < (String.utf8EncodeChar c).length ∧ (String.utf8EncodeChar c).length ≤ 4
  := by
  rw [String.length_utf8EncodeChar]
  exact ⟨c.utf8Size_pos, c.utf8Size_le_four⟩

/-! ### Boundaries -/

/-- At a boundary inside of a text stands a byte that continues no character. -/
theorem isBoundary_eq_true {bytes : Bytes} {n : Nat} :
  isBoundary bytes n = true
    ↔ n = 0 ∨ n = bytes.length ∨ ∃ b, bytes[n]? = some b ∧ ¬ IsContinuation b
  := by
  have hbyte (b : UInt8) : (b < 0x80 ∨ 0xC0 ≤ b) ↔ ¬ IsContinuation b := by
    rw [UInt8.lt_iff_toNat_lt, UInt8.le_iff_toNat_le, IsContinuation]
    simp only [UInt8.reduceToNat]
    omega
  simp [isBoundary, or_assoc, Option.any_eq_true, ← hbyte]

/-- Where a character begins, a front of the text ends. -/
theorem exists_front_of_getElem? {text : List Char} {n : Nat} {b : UInt8}
    (h : (encode text)[n]? = some b) (hb : ¬ IsContinuation b) :
  ∃ p, p <+: text ∧ (encode p).length = n
  := by
  induction text generalizing n with
  | nil => cases h
  | cons c text ih =>
    by_cases hinside : n < (String.utf8EncodeChar c).length
    · rw [encode_cons, List.getElem?_append_left hinside] at h
      obtain ⟨first, tail, hencode, -, htail⟩ := exists_utf8EncodeChar_eq_cons c
      rw [hencode] at h
      cases n with
      | zero => exact ⟨[], List.nil_prefix, rfl⟩
      | succ n => exact absurd (htail b (List.mem_of_getElem? h)) hb
    · rw [encode_cons, List.getElem?_append_right (by omega)] at h
      obtain ⟨p, hp, hlength⟩ := ih h
      refine ⟨c :: p, List.cons_prefix_cons.mpr ⟨rfl, hp⟩, ?_⟩
      rw [encode_cons, List.length_append, hlength]
      omega

/-- The boundaries of a text are the places behind its fronts. -/
theorem isBoundary_iff {text : List Char} {n : Nat} :
  isBoundary (encode text) n = true ↔ ∃ p, p <+: text ∧ (encode p).length = n
  := by
  rw [isBoundary_eq_true]
  constructor
  · rintro (rfl | rfl | ⟨b, hbyte, hb⟩)
    · exact ⟨[], List.nil_prefix, rfl⟩
    · exact ⟨text, List.prefix_rfl, rfl⟩
    · exact exists_front_of_getElem? hbyte hb
  · rintro ⟨p, ⟨rest, rfl⟩, rfl⟩
    cases rest with
    | nil => exact .inr (.inl (by simp))
    | cons c rest =>
      obtain ⟨b, tail, hencode, hb, -⟩ := exists_utf8EncodeChar_eq_cons c
      refine .inr (.inr ⟨b, ?_, hb⟩)
      rw [encode_append, List.getElem?_append_right (Nat.le_refl _), Nat.sub_self, encode_cons,
        hencode]
      rfl

/-- The search ends at the last boundary; it never gets below the front of the text. -/
theorem exists_boundary? (bytes : Bytes) (n : Nat) :
  ∃ m, boundary? bytes n = some m ∧ m ≤ n ∧ isBoundary bytes m = true
    ∧ ∀ k, m < k → k ≤ n → isBoundary bytes k = false
  := by
  induction n with
  | zero => exact ⟨0, rfl, Nat.le_refl 0, rfl, by omega⟩
  | succ n ih =>
    rw [boundary?]
    by_cases hhere : isBoundary bytes (n + 1) = true
    · rw [if_pos hhere]
      exact ⟨n + 1, rfl, Nat.le_refl _, hhere, by omega⟩
    · rw [if_neg hhere]
      obtain ⟨m, hsearch, hle, hboundary, hlast⟩ := ih
      refine ⟨m, hsearch, by omega, hboundary, fun k hlow hhigh => ?_⟩
      rcases Nat.lt_or_eq_of_le hhigh with hbefore | rfl
      · exact hlast k hlow (by omega)
      · exact Bool.eq_false_iff.mpr hhere

/-! ### Fronts -/

/-- The characters `front` are the longest front of a text with at most `budget` bytes. -/
structure IsLongestFront (budget : Nat) (text front : List Char) : Prop where
  isFront : front <+: text
  fits : (encode front).length ≤ budget
  longest : ∀ p, p <+: text → (encode p).length ≤ budget → p <+: front

/-- Of two fronts of a text the one with no more bytes is a front of the other. -/
theorem front_of_length_le {text p q : List Char} (hp : p <+: text) (hq : q <+: text)
    (h : (encode p).length ≤ (encode q).length) :
  p <+: q
  := by
  rcases List.prefix_or_prefix_of_prefix hp hq with hpq | ⟨rest, rfl⟩
  · exact hpq
  · cases rest with
    | nil => simp
    | cons c rest =>
      have hpos := (length_utf8EncodeChar_bounds c).1
      simp only [encode_append, encode_cons, List.length_append] at h
      omega

/-- The characters before the last boundary are the longest front that is not too long. -/
theorem exists_slice? {text : List Char} {budget : Nat} (h : budget ≤ (encode text).length) :
  ∃ n front, boundary? (encode text) budget = some n ∧ slice? (encode text) n = some front
    ∧ (encode front).length = n ∧ IsLongestFront budget text front
  := by
  obtain ⟨n, hsearch, hle, hboundary, hlast⟩ := exists_boundary? (encode text) budget
  obtain ⟨front, hfront, rfl⟩ := isBoundary_iff.mp hboundary
  refine ⟨_, front, hsearch, ?sliced, rfl, hfront, hle, ?longest⟩
  case sliced =>
    rw [slice?, if_pos (Nat.le_trans hle h)]
    obtain ⟨rest, rfl⟩ := hfront
    rw [encode_append, List.take_left, decode?_encode]
  case longest =>
    intro p hp hbudget
    apply front_of_length_le hp hfront
    apply Nat.le_of_not_lt
    intro hlonger
    have hnone := hlast _ hlonger hbudget
    rw [isBoundary_iff.mpr ⟨p, hp, rfl⟩] at hnone
    cases hnone

/-- The longest front of a text that is too long has almost as many bytes as it may. -/
theorem IsLongestFront.lt_add_four {budget : Nat} {text front : List Char}
    (h : IsLongestFront budget text front) (hlong : budget < (encode text).length) :
  budget < (encode front).length + 4
  := by
  obtain ⟨⟨rest, rfl⟩, hfits, hlongest⟩ := h
  cases rest with
  | nil =>
    rw [List.append_nil] at hlong
    omega
  | cons c rest =>
    have hmore : ¬ (encode (front ++ [c])).length ≤ budget := by
      intro hbudget
      have hshorter := (hlongest (front ++ [c]) ⟨rest, by simp⟩ hbudget).length_le
      rw [List.length_append, List.length_singleton] at hshorter
      omega
    have hsize := (length_utf8EncodeChar_bounds c).2
    rw [encode_append, encode_cons, encode_nil, List.append_nil, List.length_append] at hmore
    omega

end ChatPortal.Utf8
