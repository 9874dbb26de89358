import ChatPortal.Calendar.Millis
import ChatPortal.Proofs.Calendar.Date

/-!
# Milliseconds are told without overflow

Quotients and remainders are exact on integers of any width (`Width.quotient_eq`,
`Width.remainder_eq`), and the year and the day of the year are those of the day
(`YearDay.ofEraDay_spec`, `YearDay.ofCommonDay_spec`).  So every step from milliseconds of 64
bits to their point of time fits into its width, and only the range of the days decides whether
the point of time is told (`Instant.ofMillis_eq`).
-/

namespace ChatPortal.Calendar

/-! ### Steps -/

namespace Width

variable {width : Width} {n d : Int}

theorem holds_iff :
  width.holds n = true ↔ width.least ≤ n ∧ n ≤ width.greatest
  := by
  simp [holds]

theorem fit_eq (h : width.holds n = true) :
  width.fit n = .ok n
  := if_pos h

theorem least_le_zero_le_greatest (width : Width) :
  width.least ≤ 0 ∧ 0 ≤ width.greatest
  := by
  cases width
  all_goals decide

/-- A quotient by a positive integer that is rounded towards zero is one too high if something
negative is left over, and right otherwise. -/
theorem tdiv_tmod_cases (n : Int) (hd : 0 < d) :
  n.tdiv d = n / d ∧ n.tmod d = n % d
    ∨ n < 0 ∧ n.tdiv d = n / d + 1 ∧ n.tmod d = n % d - d
  := by
  rw [Int.tdiv_eq_ediv, Int.tmod_eq_emod, Int.sign_eq_one_of_pos hd]
  by_cases hexact : 0 ≤ n ∨ d ∣ n
  · left
    simp [hexact]
  · right
    have hneg : n < 0 := Int.not_le.mp (not_or.mp hexact).1
    rw [if_neg hexact, if_neg hexact, Int.natAbs_of_nonneg (Int.le_of_lt hd)]
    exact ⟨hneg, rfl, rfl⟩

/-- A quotient by a positive integer fits where what is divided does. -/
theorem holds_ediv (hd : 0 < d) (hn : width.holds n = true) :
  width.holds (n / d) = true
  := by
  rw [holds_iff] at hn ⊢
  have hzero := width.least_le_zero_le_greatest
  rcases Int.le_total 0 n with hpos | hneg
  · have hlow := Int.ediv_nonneg hpos (Int.le_of_lt hd)
    have hhigh := Int.ediv_le_self d hpos
    omega
  · have hlow : n ≤ n / d := by
      rw [Int.le_ediv_iff_mul_le hd]
      have hlarger := Int.mul_le_mul_of_nonpos_left hneg (show 1 ≤ d from hd)
      omega
    have hhigh := Int.ediv_nonpos_of_nonpos_of_neg hneg hd
    omega

/-- The quotient by a positive integer is rounded down, without overflow. -/
theorem quotient_eq (hd : 0 < d) (hn : width.holds n = true) :
  width.quotient n d = .ok (n / d)
  := by
  have hq := holds_ediv hd hn
  have hlow := Int.emod_nonneg n (Int.ne_of_gt hd)
  have hhigh := Int.emod_lt_of_pos n hd
  rcases tdiv_tmod_cases n hd with ⟨hdiv, hmod⟩ | ⟨hneg, hdiv, hmod⟩
  · rw [quotient, hdiv, hmod, fit_eq hq]
    exact if_neg (Int.not_lt.mpr hlow)
  · have hup : width.holds (n / d + 1) = true := by
      have hzero := width.least_le_zero_le_greatest
      have hbelow := Int.ediv_neg_of_neg_of_pos hneg hd
      rw [holds_iff] at hq ⊢
      omega
    have hdown : n / d + 1 - 1 = n / d := by omega
    rw [quotient, hdiv, hmod, fit_eq hup]
    show (if n % d - d < 0 then width.fit (n / d + 1 - 1) else .ok (n / d + 1)) = _
    rw [if_pos (by omega), hdown, fit_eq hq]

/-- What the quotient leaves over is not negative, and there is no overflow. -/
theorem remainder_eq (hd : 0 < d) (hwide : width.holds d = true) (hn : width.holds n = true) :
  width.remainder n d = .ok (n % d)
  := by
  have hlow := Int.emod_nonneg n (Int.ne_of_gt hd)
  have hhigh := Int.emod_lt_of_pos n hd
  have hr : width.holds (n % d) = true := by
    have hzero := width.least_le_zero_le_greatest
    rw [holds_iff] at hwide ⊢
    omega
  rcases tdiv_tmod_cases n hd with ⟨-, hmod⟩ | ⟨hneg, -, hmod⟩
  · rw [remainder, hmod, fit_eq hr]
    exact if_neg (Int.not_lt.mpr hlow)
  · have hdown : width.holds (n % d - d) = true := by
      have hsum := Int.mul_ediv_add_emod n d
      have hbelow : n / d ≤ -1 := by
        have := Int.ediv_neg_of_neg_of_pos hneg hd
        omega
      have hproduct := Int.mul_le_mul_of_nonneg_left hbelow (Int.le_of_lt hd)
      have hzero := width.least_le_zero_le_greatest
      rw [holds_iff] at hn ⊢
      omega
    have hup : n % d - d + d = n % d := by omega
    rw [remainder, hmod, fit_eq hdown]
    show (if n % d - d < 0 then width.fit (n % d - d + d) else .ok (n % d - d)) = _
    rw [if_pos (by omega), hup, fit_eq hr]

end Width

/-! ### Days of years -/

/-- Later years have no fewer leap days before them. -/
theorem leapDays_mono {year later : Int} (h : year ≤ later) :
  leapDays year ≤ leapDays later
  := by
  obtain ⟨n, rfl⟩ : ∃ n : Nat, later = year + n := ⟨(later - year).toNat, by omega⟩
  clear h
  induction n with
  | zero => simp
  | succ n ih =>
    have hstep : leapDays (year + n) ≤ leapDays (year + (n + 1 : Nat)) := by
      simp only [leapDays]
      omega
    exact Int.le_trans ih hstep

/-- A year has 365 days and one more if it adds to the leap days. -/
theorem yearLength_eq (year : Int) :
  yearLength year = 365 + (leapDays (year + 1) - leapDays year)
  := by
  have hleap : isLeap year = true ↔ year % 4 = 0 ∧ (year % 100 ≠ 0 ∨ year % 400 = 0) := by
    simp [isLeap]
  simp only [yearLength, leapDays, hleap]
  split
  · omega
  · omega

namespace YearDay

/-- A day of an era is a day of one of its 400 years, and there is no overflow. -/
theorem ofEraDay_spec {day : Int} (hday : 0 ≤ day ∧ day < 146097) :
  ∃ date, ofEraDay day = .ok date ∧ 0 ≤ date.year ∧ date.year < 400
    ∧ 1 ≤ date.day ∧ date.day ≤ yearLength date.year
    ∧ 365 * date.year + leapDays date.year + date.day = day + 1
  := by
  have hfits {n : Int} (h : 0 ≤ n ∧ n ≤ 1000) : Width.nat32.fit n = .ok n := by
    apply Width.fit_eq
    simp only [Width.holds_iff, Width.least, Width.greatest]
    omega
  obtain ⟨year, hyear⟩ : ∃ year, day / 365 = year := ⟨_, rfl⟩
  obtain ⟨rest, hrest⟩ : ∃ rest, day % 365 = rest := ⟨_, rfl⟩
  have hleap : 0 ≤ leapDays year ∧ leapDays year ≤ 97 := by
    rw [leapDays]
    omega
  by_cases hpushed : rest < leapDays year
  · have hsecond : 1 ≤ year := by
      rw [leapDays] at hpushed
      omega
    have hlength := yearLength_eq (year - 1)
    have hbefore : 0 ≤ leapDays (year - 1) ∧ leapDays (year - 1) ≤ 97 := by
      rw [leapDays]
      omega
    rw [Int.sub_add_cancel] at hlength
    refine ⟨⟨year - 1, rest + (365 - leapDays (year - 1)) + 1⟩, ?_, ?_⟩
    · simp (disch := omega) only [ofEraDay, hyear, hrest, if_pos hpushed, hfits, bind,
        Except.bind, pure, Except.pure]
    · dsimp only
      omega
  · have hlength := yearLength_eq year
    have hgrows := leapDays_mono (show year ≤ year + 1 by omega)
    have hlast : year ≠ 400 := by
      rintro rfl
      rw [show leapDays 400 = 97 from rfl] at hpushed
      omega
    refine ⟨⟨year, rest - leapDays year + 1⟩, ?_, ?_⟩
    · simp (disch := omega) only [ofEraDay, hyear, hrest, if_neg hpushed, hfits, bind,
        Except.bind, pure, Except.pure]
    · dsimp only
      omega

/-- The days from the first of January 1970 to a day of a year of an era. -/
theorem toDays_of_era (era year day : Int) :
  toDays ⟨era * 400 + year, day⟩ + 719528
    = era * 146097 + 365 * year + leapDays year + day - 1
  := by
  have hmonth : (1 : Nat) ≤ 2 := by decide
  simp only [toDays, Date.toDays, leapDays, if_pos hmonth]
  omega

/-- Points of time are told on a day of a year if they are told in that year.  The range begins
with the year 257 of its first era and ends with the year 142 of its last one. -/
theorem isTold_eq {era year day : Int} (hyear : 0 ≤ year ∧ year < 400)
    (hday : 1 ≤ day ∧ day ≤ yearLength year) :
  isTold ⟨era * 400 + year, day⟩ = inRange (toDays ⟨era * 400 + year, day⟩)
  := by
  have hlength : yearLength (era * 400 + year) = yearLength year := by
    rw [yearLength, Int.add_comm, isLeap_add_eras]
    rfl
  have hdays := toDays_of_era era year day
  have hend := yearLength_eq year
  have hlow : 0 ≤ leapDays year := leapDays_mono hyear.1
  have hhigh : leapDays (year + 1) ≤ 97 := leapDays_mono (show year + 1 ≤ 400 from hyear.2)
  have hbefore (h : year < 257) : leapDays (year + 1) ≤ 63 :=
    leapDays_mono (show year + 1 ≤ 257 from h)
  have hfirst (h : 257 ≤ year) : 63 ≤ leapDays year := leapDays_mono h
  have hlast (h : year < 143) : leapDays (year + 1) ≤ 35 :=
    leapDays_mono (show year + 1 ≤ 143 from h)
  have hafter (h : 143 ≤ year) : 35 ≤ leapDays year := leapDays_mono h
  rw [Bool.eq_iff_iff]
  simp only [isTold, inRange_iff, hlength, Bool.and_eq_true, decide_eq_true_eq]
  simp only [firstYear, lastYear]
  have heras : era < -656 ∨ era = -656 ∨ -656 < era ∧ era < 655 ∨ era = 655 ∨ 655 < era := by
    omega
  rcases heras with h | rfl | h | rfl | h
  all_goals omega

/-- A day is the one that its year and its day of the year tell, and there is no overflow. -/
theorem ofCommonDay_spec (day : Int) :
  ∃ date, date.toDays = day - 719163 ∧ ofCommonDay day
    = if inRange (day - 719163) then .ok date else .error .outOfRange
  := by
  obtain ⟨era, hera⟩ : ∃ era, (day + 365) / 146097 = era := ⟨_, rfl⟩
  have hinside : 0 ≤ (day + 365) % 146097 ∧ (day + 365) % 146097 < 146097 := by omega
  obtain ⟨date, hdate, hfirst, hlast, hone, hlength, hsum⟩ := ofEraDay_spec hinside
  have hdays := toDays_of_era era date.year date.day
  have hwhole : toDays ⟨era * 400 + date.year, date.day⟩ = day - 719163 := by omega
  refine ⟨⟨era * 400 + date.year, date.day⟩, hwhole, ?_⟩
  by_cases hday : Width.int32.holds (day + 365) = true
  · have hbounds := Width.holds_iff.mp hday
    simp only [Width.least, Width.greatest] at hbounds
    have hfits {n : Int} (h : -0x80000000 ≤ n ∧ n ≤ 0x7FFFFFFF) : Width.int32.fit n = .ok n :=
      Width.fit_eq (Width.holds_iff.mpr h)
    rw [← hwhole, ← isTold_eq ⟨hfirst, hlast⟩ ⟨hone, hlength⟩]
    simp (disch := omega) only [ofCommonDay, hday, Bool.not_true, Bool.false_eq_true, if_false,
      Width.quotient_eq (d := 146097) (by decide) hday, hera,
      Width.remainder_eq (d := 146097) (by decide) (by decide) hday, hdate, hfits, bind,
      Except.bind]
  · have hfar : ¬ inRange (day - 719163) = true := by
      intro h
      have hbounds := inRange_iff.mp h
      rw [Width.holds_iff] at hday
      simp only [Width.least, Width.greatest] at hday
      omega
    simp only [ofCommonDay, hday, hfar, Bool.not_false, Bool.false_eq_true, if_true, if_false]

end YearDay

/-! ### Points of time -/

namespace Instant

/-- The point of time some number of seconds and nanoseconds after the beginning of 1970 is told
on its day, if points of time are, and there is no overflow. -/
theorem ofSeconds_eq {seconds nano : Int} (hseconds : Width.int64.holds seconds = true)
    (hnano : 0 ≤ nano ∧ nano < 1000000000) :
  ofSeconds seconds nano
    = if inRange (seconds / 86400) then
        .ok ⟨seconds / 86400, (seconds % 86400).toNat, nano.toNat⟩
      else
        .error .outOfRange
  := by
  have hday : Width.int64.fit (seconds / 86400 + 719163) = .ok (seconds / 86400 + 719163) := by
    apply Width.fit_eq
    rw [Width.holds_iff] at hseconds ⊢
    simp only [Width.least, Width.greatest] at hseconds ⊢
    omega
  have htime : isTimeOfDay (seconds % 86400).toNat nano.toNat = true := by
    simp only [isTimeOfDay, Bool.and_eq_true, Bool.or_eq_true, decide_eq_true_eq, beq_iff_eq]
    omega
  obtain ⟨date, hdate, hcommon⟩ := YearDay.ofCommonDay_spec (seconds / 86400 + 719163)
  rw [Int.add_sub_cancel] at hdate hcommon
  simp only [ofSeconds, Width.quotient_eq (d := 86400) (by decide) hseconds,
    Width.remainder_eq (d := 86400) (by decide) (by decide) hseconds, hday, hcommon, bind,
    Except.bind]
  by_cases htold : inRange (seconds / 86400) = true
  · have hnear : Width.int32.holds (seconds / 86400 + 719163) = true := by
      have hbounds := inRange_iff.mp htold
      simp only [Width.holds_iff, Width.least, Width.greatest]
      omega
    simp only [hnear, htold, htime, hdate, Bool.not_true, Bool.false_eq_true, if_false, if_true]
  · simp only [htold, Bool.false_eq_true, if_false, ite_self]

/-- The point of time some number of milliseconds after the beginning of 1970 is told on its
day, if points of time are, and there is no overflow. -/
theorem ofMillis_eq {millis : Int} (h : Width.int64.holds millis = true) :
  ofMillis millis
    = if inRange (millis / 86400000) then
        .ok ⟨millis / 86400000, (millis / 1000 % 86400).toNat, (millis % 1000 * 1000000).toNat⟩
      else
        .error .outOfRange
  := by
  have hnano : Width.nat32.fit (millis % 1000 * 1000000) = .ok (millis % 1000 * 1000000) := by
    apply Width.fit_eq
    simp only [Width.holds_iff, Width.least, Width.greatest]
    omega
  have hday : millis / 1000 / 86400 = millis / 86400000 := Int.ediv_ediv_of_nonneg (by decide)
  simp only [ofMillis, Width.quotient_eq (d := 1000) (by decide) h,
    Width.remainder_eq (d := 1000) (by decide) (by decide) h, hnano, bind, Except.bind]
  rw [ofSeconds_eq (Width.holds_ediv (by decide) h) (by omega), hday]

/-- Milliseconds that do not fit into 64 bits may overflow. -/
example : ofMillis 0x8000000000000000000 = .error .overflow := rfl

end Instant

end ChatPortal.Calendar
