import ChatPortal.Calendar.Instant
import ChatPortal.Proofs.Calendar.Date

/-!
# Points of time are read back

`Instant.parse` reads what `Instant.render` writes, for every point of time that a clock can
show (`Instant.parse_render`).  Each reader of a part of the text reads what is written there
in front of anything that does not begin with a digit.
-/

namespace ChatPortal.Calendar.Instant

/-- The point of time is one that a clock can show: its day is told, the time is one of that
day, and only the last second of a minute is a leap second. -/
def IsTold (t : Instant) : Prop :=
  inRange t.days = true ∧ t.second < 86400
    ∧ (t.nano < 1000000000 ∨ t.second % 60 = 59 ∧ t.nano < 2000000000)

instance : DecidablePred IsTold := fun _ => inferInstanceAs (Decidable (_ ∧ _ ∧ _))

/-! ### Digits -/

/-- The text goes on with something else than a digit. -/
def Breaks (text : List Char) : Prop :=
  ∀ c ∈ text.head?, digit? c = none

theorem digit?_of_isDigit {c : Char} (h : c.isDigit = true) :
  digit? c = some (c.toNat - '0'.toNat)
  := by
  have hrange := Char.isDigit_iff_toNat.mp h
  exact if_pos ⟨Char.le_def.mpr hrange.1, Char.le_def.mpr hrange.2⟩

/-- Digits are taken up to the width or to where they end. -/
theorem takeDigits_digits {digits rest : List Char} {width : Nat}
    (hdigits : ∀ c ∈ digits, c.isDigit = true) (hlength : digits.length ≤ width)
    (hrest : digits.length = width ∨ Breaks rest) (n : Nat) :
  takeDigits width n (digits ++ rest) = (Nat.ofDigitChars 10 digits n, digits.length, rest)
  := by
  induction digits generalizing width n with
  | nil =>
    cases width with
    | zero => rfl
    | succ width =>
      cases rest with
      | nil => rfl
      | cons c rest =>
        have hc : digit? c = none := (hrest.resolve_left (by simp)) c rfl
        simp only [List.nil_append, takeDigits, hc, Nat.ofDigitChars_nil, List.length_nil]
  | cons c digits ih =>
    obtain ⟨width, rfl⟩ : ∃ fewer, width = fewer + 1 := ⟨width - 1, by simp at hlength; omega⟩
    rw [List.forall_mem_cons] at hdigits
    simp only [List.length_cons, Nat.add_le_add_iff_right, Nat.add_right_cancel_iff]
      at hlength hrest
    simp only [List.cons_append, takeDigits, digit?_of_isDigit hdigits.1,
      ih hdigits.2 hlength hrest, Nat.ofDigitChars_cons, List.length_cons, Nat.mul_comm]

theorem isDigit_of_mem_padded {width n : Nat} {c : Char} (h : c ∈ padded width n) :
  c.isDigit = true
  := by
  rw [padded, List.mem_append] at h
  rcases h with h | h
  · rw [List.eq_of_mem_replicate h]
    rfl
  · exact Nat.isDigit_of_mem_toDigits (by decide) (by decide) h

theorem ofDigitChars_padded (width n : Nat) :
  Nat.ofDigitChars 10 (padded width n) 0 = n
  := by
  rw [padded, Nat.ofDigitChars_append, Nat.ofDigitChars_replicate_zero, Nat.mul_zero,
    Nat.ofDigitChars_ten_toDigits]

theorem length_padded {width n : Nat} (hwidth : 0 < width) (h : n < Nat.pow 10 width) :
  (padded width n).length = width
  := by
  have := (Nat.length_toDigits_le_iff (by decide) hwidth).mpr h
  simp only [padded, List.length_append, List.length_replicate]
  omega

theorem padded_eq_cons (width n : Nat) :
  ∃ c more, padded width n = c :: more ∧ c.isDigit = true
  := by
  cases hpadded : padded width n with
  | nil =>
    rw [padded, List.append_eq_nil_iff] at hpadded
    exact absurd hpadded.2 Nat.toDigits_ne_nil
  | cons c more => exact ⟨c, more, rfl, isDigit_of_mem_padded (hpadded ▸ List.mem_cons_self)⟩

theorem isBlank_of_isDigit {c : Char} (h : c.isDigit = true) :
  Text.isBlank c = false
  := by
  have hrange : 48 ≤ c.toNat ∧ c.toNat ≤ 57 := Char.isDigit_iff_toNat.mp h
  rw [Text.isBlank]
  simp only [Bool.or_eq_false_iff, Bool.and_eq_false_iff, decide_eq_false_iff_not,
    beq_eq_false_iff_ne]
  omega

theorem trimFront_cons {c : Char} (h : Text.isBlank c = false) (rest : List Char) :
  Text.trimFront (c :: rest) = c :: rest
  := List.dropWhile_cons_of_neg (by simp [h])

theorem readMark_cons {mark : Char} (h : Text.isBlank mark = false) (rest : List Char) :
  readMark mark (mark :: rest) = .ok rest
  := by
  rw [readMark, trimFront_cons h]
  exact if_pos rfl

/-! ### Numbers -/

/-- A padded number is read if it fits into the width of its field and ends there or before
something else than a digit. -/
theorem readNumber_padded {width size n : Nat} {rest : List Char}
    (hlength : (padded size n).length ≤ width)
    (hrest : (padded size n).length = width ∨ Breaks rest) (hn : n < 0x8000000000000000) :
  readNumber width (padded size n ++ rest) = .ok (n, rest)
  := by
  have htaken := takeDigits_digits (fun _ => isDigit_of_mem_padded) hlength hrest 0
  obtain ⟨c, more, hpadded, -⟩ := padded_eq_cons size n
  rw [ofDigitChars_padded] at htaken
  rw [hpadded, List.cons_append, List.length_cons] at htaken
  simp only [readNumber, hpadded, List.cons_append, htaken, hn, if_true]

/-- A number of two digits is read in a field of two digits. -/
theorem readField_padded {low high n : Nat} (hlow : low ≤ n) (hhigh : n ≤ high)
    (hn : n < 100) (rest : List Char) :
  readField 2 low high (padded 2 n ++ rest) = .ok (n, rest)
  := by
  have hlength : (padded 2 n).length = 2 := length_padded (by decide) hn
  have hnumber : readNumber 2 (padded 2 n ++ rest) = .ok (n, rest) :=
    readNumber_padded (Nat.le_of_eq hlength) (.inl hlength) (by omega)
  obtain ⟨c, more, hpadded, hc⟩ := padded_eq_cons 2 n
  rw [hpadded, List.cons_append] at hnumber ⊢
  rw [readField, trimFront_cons (isBlank_of_isDigit hc), hnumber]
  exact if_pos ⟨hlow, hhigh⟩

/-- A year that fits into 32 bits is read up to its hyphen. -/
theorem readYear_renderYear {year : Int} (hlow : -0x80000000 ≤ year) (hhigh : year < 0x80000000)
    (rest : List Char) :
  readYear (renderYear year ++ '-' :: rest) = .ok (year, '-' :: rest)
  := by
  have hbreaks : Breaks ('-' :: rest) := by
    rintro _ ⟨⟩
    rfl
  by_cases hfour : 0 ≤ year ∧ year ≤ 9999
  · have hlength : (padded 4 year.toNat).length = 4 :=
      length_padded (by decide) (show year.toNat < 10000 by omega)
    have hnumber := readNumber_padded (Nat.le_of_eq hlength) (.inr hbreaks) (by omega)
    obtain ⟨c, more, hpadded, hc⟩ := padded_eq_cons 4 year.toNat
    have hplus : c ≠ '+' := by
      rintro rfl
      exact absurd hc (by decide)
    have hminus : c ≠ '-' := by
      rintro rfl
      exact absurd hc (by decide)
    rw [renderYear, if_pos hfour]
    rw [hpadded, List.cons_append] at hnumber ⊢
    simp only [readYear, trimFront_cons (isBlank_of_isDigit hc), hnumber]
    split
    · next heq => exact absurd (List.cons.inj heq).1 hminus
    · next heq => exact absurd (List.cons.inj heq).1 hplus
    · rw [Int.one_mul, Int.toNat_of_nonneg hfour.1, if_pos ⟨hlow, hhigh⟩]
  · have hnumber : readNumber (padded 4 year.natAbs ++ '-' :: rest).length
          (padded 4 year.natAbs ++ '-' :: rest)
        = .ok (year.natAbs, '-' :: rest) :=
      readNumber_padded (by simp) (.inr hbreaks) (by omega)
    rw [renderYear, if_neg hfour]
    by_cases hnegative : year < 0
    · simp only [if_pos hnegative, List.cons_append, readYear, hnumber,
        trimFront_cons (show Text.isBlank '-' = false from rfl)]
      rw [show -1 * (year.natAbs : Int) = year by omega, if_pos ⟨hlow, hhigh⟩]
    · simp only [if_neg hnegative, List.cons_append, readYear, hnumber,
        trimFront_cons (show Text.isBlank '+' = false from rfl)]
      rw [show 1 * (year.natAbs : Int) = year by omega, if_pos ⟨hlow, hhigh⟩]

/-! ### The rest of the text -/

/-- Groups of digits after the point are read as billionths. -/
theorem readFraction_padded {width n : Nat} (hwidth : 0 < width ∧ width ≤ 9)
    (hn : n < Nat.pow 10 width) {rest : List Char} (hrest : Breaks rest) :
  readFraction ('.' :: padded width n ++ rest) = .ok (n * Nat.pow 10 (9 - width), rest)
  := by
  have hlength := length_padded hwidth.1 hn
  have htaken := takeDigits_digits (fun _ => isDigit_of_mem_padded)
    (Nat.le_trans (Nat.le_of_eq hlength) hwidth.2) (.inr hrest) 0
  have hdrop : rest.dropWhile (fun c => (digit? c).isSome) = rest := by
    cases rest with
    | nil => rfl
    | cons c rest =>
      apply List.dropWhile_cons_of_neg
      simp [hrest c rfl]
  obtain ⟨c, more, hpadded, -⟩ := padded_eq_cons width n
  rw [ofDigitChars_padded] at htaken
  rw [hpadded, List.length_cons] at hlength
  rw [hpadded, List.cons_append, List.length_cons] at htaken
  subst hlength
  simp only [hpadded, List.cons_append, readFraction, htaken, hdrop, Nat.pow_eq]

/-- The fraction of a second is read as it is written. -/
theorem readFraction_renderFraction {nano : Nat} (h : nano < 1000000000) (rest : List Char) :
  readFraction (renderFraction nano ++ 'Z' :: rest) = .ok (nano, 'Z' :: rest)
  := by
  have hbreaks : Breaks ('Z' :: rest) := by
    rintro _ ⟨⟩
    rfl
  rw [renderFraction]
  split
  · subst nano
    rfl
  · split
    · have hback : nano / 1000000 * 1000000 = nano := by omega
      rw [readFraction_padded (by decide) (show nano / 1000000 < 1000 by omega) hbreaks]
      exact congrArg (fun n => Except.ok (n, 'Z' :: rest)) hback
    · split
      · have hback : nano / 1000 * 1000 = nano := by omega
        rw [readFraction_padded (by decide) (show nano / 1000 < 1000000 by omega) hbreaks]
        exact congrArg (fun n => Except.ok (n, 'Z' :: rest)) hback
      · rw [readFraction_padded (by decide) (show nano < 1000000000 from h) hbreaks]
        exact congrArg (fun n => Except.ok (n, 'Z' :: rest)) (Nat.mul_one nano)

/-- A clock in UTC shows the point of time, a leap second as the second 60. -/
theorem ofLocal_utc {t : Instant} (h : t.IsTold) :
  ofLocal (Date.ofDays t.days) (t.second / 3600) (t.second / 60 % 60)
      (t.second % 60 + t.nano / 1000000000) (t.nano % 1000000000) 0
    = .ok t
  := by
  obtain ⟨hdays, hsecond, hnano⟩ := h
  have hshown : (if t.second % 60 + t.nano / 1000000000 = 60 then
        (59, t.nano % 1000000000 + 1000000000)
      else (t.second % 60 + t.nano / 1000000000, t.nano % 1000000000))
      = (t.second % 60, t.nano) := by
    split
    · rw [Prod.mk.injEq]
      omega
    · rw [Prod.mk.injEq]
      omega
  have htotal : t.days * 86400
      + ((t.second / 3600 * 3600 + t.second / 60 % 60 * 60 + t.second % 60 : Nat) : Int) - 0
      = t.days * 86400 + t.second := by omega
  simp only [ofLocal, Date.isValid_ofDays hdays, Date.toDays_ofDays, hshown, htotal]
  rw [show (t.days * 86400 + t.second) / 86400 = t.days by omega,
    show ((t.days * 86400 + t.second) % 86400).toNat = t.second by omega, if_pos hdays]
  rfl

/-- The date of a told day has two digits for the month and for the day, and a year that
fits into 32 bits. -/
theorem bounds_of_isValid {date : Date} (h : date.isValid = true) :
  -0x80000000 ≤ date.year ∧ date.year < 0x80000000 ∧ 1 ≤ date.month ∧ date.month ≤ 12
    ∧ 1 ≤ date.day ∧ date.day ≤ 31
  := by
  have hmonth := monthLength_le date.year date.month
  simp only [Date.isValid, Bool.and_eq_true, decide_eq_true_eq] at h
  simp only [firstYear, lastYear] at h
  omega

/-- A point of time is read back. -/
theorem parse_render {t : Instant} (h : t.IsTold) :
  parse t.render = .ok t
  := by
  obtain ⟨-, hsecond, hnano⟩ := id h
  obtain ⟨hlow, hhigh, hmonth, htwelve, hday, hlast⟩ :=
    bounds_of_isValid (Date.isValid_ofDays h.1)
  have hhyphen : Text.isBlank '-' = false := rfl
  have hcolon : Text.isBlank ':' = false := rfl
  simp only [render, List.append_assoc, List.cons_append, parse, bind, Except.bind]
  rw [readYear_renderYear hlow hhigh]
  simp only [readMark_cons hhyphen]
  rw [readField_padded hmonth htwelve (by omega)]
  simp only [readMark_cons hhyphen]
  rw [readField_padded hday hlast (by omega)]
  simp only [readSeparator, true_or, if_true]
  rw [readField_padded (Nat.zero_le _) (by omega) (by omega)]
  simp only [readMark_cons hcolon]
  rw [readField_padded (Nat.zero_le _) (by omega) (by omega)]
  simp only [readMark_cons hcolon]
  rw [readField_padded (Nat.zero_le _) (by omega) (by omega)]
  simp only [readFraction_renderFraction (Nat.mod_lt _ (by decide))]
  exact ofLocal_utc h

end ChatPortal.Calendar.Instant
