import ChatPortal.Calendar.Date

/-!
# Days and dates

`Date.toDays` undoes `Date.ofDays` on every day (`Date.toDays_ofDays`), and the days on which
points of time are told are days of the calendar (`Date.isValid_ofDays`).  Both follow from
where a day stands in its era of 400 years (`yearOfEra_spec`) and in its year, which begins in
March (`monthOfYear_spec`).
-/

namespace ChatPortal.Calendar

/-! ### Years -/

/-- The year of a day in a century that begins `n` centuries after its era: the day is one of
the 365 days of the year, or the last day of a leap year.  The number of leap days before the
year is counted right or one too high. -/
theorem yearOfCentury_spec (n day year : Int) (hn : 0 ≤ n ∧ n ≤ 3)
    (hday : 0 ≤ day ∧ day < 36524)
    (hyear : year = (day - (24 * n + day) / 1460) / 365) :
  0 ≤ year ∧ year < 100 ∧ 365 * year + year / 4 ≤ day ∧ day ≤ 365 * year + year / 4 + 365
    ∧ (day = 365 * year + year / 4 + 365 → year % 4 = 3 ∧ year ≠ 99)
  := by
  have hlow : 0 ≤ year := by omega
  have hhigh : year < 100 := by omega
  have hcount : year / 4 ≤ (24 * n + day) / 1460 ∧ (24 * n + day) / 1460 ≤ year / 4 + 1 := by
    omega
  refine ⟨hlow, hhigh, by omega, by omega, ?_⟩
  intro hlast
  have hleap : year % 4 = 3 := by
    by_cases hcommon : year % 4 < 3
    · have hright : (24 * n + day) / 1460 = year / 4 := by omega
      omega
    · omega
  exact ⟨hleap, by omega⟩

/-- The year of a day in an era of 400 years: the day is one of the 365 days of the year, or
the last day of a leap year. -/
theorem yearOfEra_spec {day year : Int} (hday : 0 ≤ day ∧ day < 146097)
    (hyear : year = (day - day / 1460 + day / 36524 - day / 146096) / 365) :
  0 ≤ year ∧ year < 400 ∧ 365 * year + year / 4 - year / 100 ≤ day
    ∧ day ≤ 365 * year + year / 4 - year / 100 + 365
    ∧ (day = 365 * year + year / 4 - year / 100 + 365 → isLeap (year + 1) = true)
  := by
  by_cases hend : day = 146096
  · subst hend
    obtain rfl : year = 399 := hyear
    decide
  · obtain ⟨hlow, hhigh, hstart, hstop, hlast⟩ :=
      yearOfCentury_spec (day / 36524) (day % 36524) (year - 100 * (day / 36524)) (by omega)
        (by omega) (by omega)
    have hcentury : year / 100 = day / 36524 := by omega
    refine ⟨by omega, by omega, by omega, by omega, ?_⟩
    intro hday
    have := hlast (by omega)
    simp only [isLeap, Bool.and_eq_true, Bool.or_eq_true, beq_iff_eq, bne_iff_ne]
    omega

/-! ### Months -/

/-- A month has at most 31 days. -/
theorem monthLength_le (year : Int) (month : Nat) :
  monthLength year month ≤ 31
  := by
  rw [monthLength]
  split
  · split
    · decide
    · decide
  · split
    · decide
    · decide

/-- In a year that begins in March each month but the last one ends where the next one begins. -/
theorem monthLength_eq {month : Int} (hmonth : 0 ≤ month ∧ month ≤ 10) (year : Int) :
  (monthLength year (if month < 10 then month + 3 else month - 9).toNat : Int)
    = (153 * (month + 1) + 2) / 5 - (153 * month + 2) / 5
  := by
  obtain rfl | rfl | rfl | rfl | rfl | rfl | rfl | rfl | rfl | rfl | rfl :
      month = 0 ∨ month = 1 ∨ month = 2 ∨ month = 3 ∨ month = 4 ∨ month = 5 ∨ month = 6
        ∨ month = 7 ∨ month = 8 ∨ month = 9 ∨ month = 10 := by omega
  all_goals rfl

/-- The month and the day of the month, for a day of a year that begins in March and ends with
February. -/
theorem monthOfYear_spec {dayOfYear month : Int} (hday : 0 ≤ dayOfYear ∧ dayOfYear ≤ 365)
    (hmonth : month = (5 * dayOfYear + 2) / 153) :
  0 ≤ month ∧ month ≤ 11 ∧ 0 ≤ dayOfYear - (153 * month + 2) / 5
    ∧ (∀ year, (dayOfYear = 365 → isLeap year = true) →
      dayOfYear - (153 * month + 2) / 5
        < monthLength year (if month < 10 then month + 3 else month - 9).toNat)
  := by
  refine ⟨by omega, by omega, by omega, ?_⟩
  intro year hleap
  by_cases hlast : month = 11
  · subst hlast
    show _ < (monthLength year 2 : Int)
    rw [monthLength, if_pos (beq_self_eq_true 2)]
    split
    · omega
    · next hcommon =>
      have hshort : dayOfYear ≠ 365 := fun h => absurd (hleap h) hcommon
      omega
  · rw [monthLength_eq (by omega)]
    omega

/-! ### Dates -/

/-- Leap years return after 400 years. -/
theorem isLeap_add_eras (year era : Int) :
  isLeap (year + era * 400) = isLeap year
  := by
  simp only [isLeap]
  rw [show (year + era * 400) % 4 = year % 4 by omega,
    show (year + era * 400) % 100 = year % 100 by omega,
    show (year + era * 400) % 400 = year % 400 by omega]

/-- Where a day stands: the era, the year of the era and the month of the year, both counted
from March, and the day of the month. -/
theorem Date.ofDays_spec (days : Int) :
  ∃ era year month day : Int, 0 ≤ year ∧ year < 400 ∧ 0 ≤ month ∧ month ≤ 11 ∧ 0 ≤ day
    ∧ days + 719468
      = era * 146097 + (365 * year + year / 4 - year / 100 + (153 * month + 2) / 5 + day)
    ∧ Date.ofDays days
      = ⟨year + era * 400 + if month < 10 then 0 else 1,
        (if month < 10 then month + 3 else month - 9).toNat, (day + 1).toNat⟩
    ∧ day < monthLength (Date.ofDays days).year (Date.ofDays days).month
  := by
  obtain ⟨era, hera⟩ : ∃ era, (days + 719468) / 146097 = era := ⟨_, rfl⟩
  obtain ⟨dayOfEra, hday⟩ : ∃ day, (days + 719468) % 146097 = day := ⟨_, rfl⟩
  obtain ⟨year, hyear⟩ :
      ∃ year, year = (dayOfEra - dayOfEra / 1460 + dayOfEra / 36524 - dayOfEra / 146096) / 365 :=
    ⟨_, rfl⟩
  obtain ⟨hfirst, hlast, hstart, hstop, hleap⟩ := yearOfEra_spec (by omega) hyear
  obtain ⟨dayOfYear, hdoy⟩ : ∃ day, day = dayOfEra - (365 * year + year / 4 - year / 100) :=
    ⟨_, rfl⟩
  obtain ⟨month, hmonth⟩ : ∃ month, month = (5 * dayOfYear + 2) / 153 := ⟨_, rfl⟩
  obtain ⟨hlow, hhigh, hbegin, hlength⟩ := monthOfYear_spec (by omega) hmonth
  have hdate : Date.ofDays days
      = ⟨year + era * 400 + if month < 10 then 0 else 1,
        (if month < 10 then month + 3 else month - 9).toNat,
        (dayOfYear - (153 * month + 2) / 5 + 1).toNat⟩ := by
    simp only [Date.ofDays, hera, hday, ← hyear, ← hdoy, ← hmonth, Date.mk.injEq, and_self,
      and_true]
    by_cases hspring : month < 10
    · simp only [if_pos hspring]
      omega
    · simp only [if_neg hspring]
      omega
  refine ⟨era, year, month, _, hfirst, hlast, hlow, hhigh, hbegin, by omega, hdate, ?_⟩
  rw [hdate]
  apply hlength
  intro hend
  rw [if_neg (by omega), show year + era * 400 + 1 = year + 1 + era * 400 by omega,
    isLeap_add_eras]
  exact hleap (by omega)

/-- A day is the day of its date. -/
theorem Date.toDays_ofDays (days : Int) :
  (Date.ofDays days).toDays = days
  := by
  obtain ⟨era, year, month, day, hfirst, hlast, hlow, hhigh, hday, hdays, hdate, -⟩ :=
    Date.ofDays_spec days
  rw [hdate, Date.toDays]
  by_cases hspring : month < 10
  · simp only [if_pos hspring]
    split
    · omega
    · omega
  · simp only [if_neg hspring]
    split
    · omega
    · omega

theorem inRange_iff {days : Int} :
  inRange days = true ↔ -96465292 ≤ days ∧ days ≤ 95026236
  := by
  simp [inRange, show firstDay = -96465292 by decide, show lastDay = 95026236 by decide]

/-- The days on which points of time are told are days of the calendar. -/
theorem Date.isValid_ofDays {days : Int} (h : inRange days = true) :
  (Date.ofDays days).isValid = true
  := by
  obtain ⟨era, year, month, day, hfirst, hlast, hlow, hhigh, hday, hdays, hdate, hlength⟩ :=
    Date.ofDays_spec days
  have hrange := inRange_iff.mp h
  have hmonth := monthLength_le (Date.ofDays days).year (Date.ofDays days).month
  have heras : -656 ≤ era ∧ era ≤ 655 := by omega
  rw [hdate] at hlength hmonth ⊢
  simp only [Date.isValid, Bool.and_eq_true, decide_eq_true_eq]
  simp only [firstYear, lastYear]
  by_cases hspring : month < 10
  · simp only [if_pos hspring] at hlength hmonth ⊢
    omega
  · simp only [if_neg hspring] at hlength hmonth ⊢
    omega

end ChatPortal.Calendar
