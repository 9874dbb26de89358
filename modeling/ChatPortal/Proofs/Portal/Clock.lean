import ChatPortal.Portal.ChatLine
import ChatPortal.Proofs.Calendar.Instant
import ChatPortal.Proofs.Calendar.Millis
import ChatPortal.Proofs.Gateway.Envelope

/-!
# A line is shown with its time

The clock of a line shows the hour and the minute of its time in two digits each, for times
before 1970 as well as for later ones, and nothing if the time is in none of the years in which
points of time are told (`ChatLine.clock_tells_time`).  The point of time behind it comes from
`Calendar.Instant.ofMillis_eq`, so nothing overflows on the way.
-/

namespace ChatPortal.Portal.ChatLine

open Calendar Gateway

/-- The time is not before the first day on which points of time are told, nor after the last
one. -/
def IsTold (line : ChatLine) : Prop :=
  firstDay * 86400000 ≤ line.time ∧ line.time < (lastDay + 1) * 86400000

instance : DecidablePred IsTold := fun _ => inferInstanceAs (Decidable (_ ∧ _))

theorem isTold_iff_millis {line : ChatLine} :
  line.IsTold ↔ -8334601228800000 ≤ line.time ∧ line.time ≤ 8210266876799999
  := by
  simp only [IsTold, show firstDay = -96465292 by decide, show lastDay = 95026236 by decide]
  omega

/-- The time is told if points of time are told on its day. -/
theorem isTold_iff {line : ChatLine} :
  line.IsTold ↔ inRange (line.time / 86400000) = true
  := by
  rw [isTold_iff_millis, inRange_iff]
  omega

/-- A number below a hundred is written in two digits. -/
theorem twoDigits_eq {n : Nat} (h : n < 100) :
  twoDigits n = Instant.padded 2 n
  := by
  have hdigit : ∀ d < 10, Nat.digitChar d = Char.ofNat (48 + d) := by decide
  rw [twoDigits, Instant.padded]
  by_cases hsmall : n < 10
  · rw [Nat.toDigits_of_lt_base hsmall, hdigit n hsmall, Nat.div_eq_of_lt hsmall,
      Nat.mod_eq_of_lt hsmall]
    rfl
  · rw [Nat.toDigits_of_base_le (by decide) (Nat.not_lt.mp hsmall),
      Nat.toDigits_of_lt_base (show n / 10 < 10 by omega), hdigit _ (by omega),
      hdigit _ (by omega)]
    rfl

/-- The point of time at which a line was said, if it can be told. -/
theorem saidAt_eq {line : ChatLine} (htime : IsInt64 line.time) :
  line.saidAt
    = if line.IsTold then
        .ok ⟨line.time / 86400000, (line.time / 1000 % 86400).toNat,
          (line.time % 1000 * 1000000).toNat⟩
      else
        .error .outOfRange
  := by
  rw [saidAt, Instant.ofMillis_eq (Width.holds_iff.mpr htime)]
  simp only [isTold_iff]

/-- The clock of a line shows the hour and the minute of its time in two digits each if the time
is told, and nothing otherwise; hours and minutes are counted from the beginning of 1970 and
rounded down.  No step on the way to the point of time overflows. -/
theorem clock_tells_time (line : ChatLine) (htime : IsInt64 line.time) :
  let hour := line.time / 3600000 % 24
  let minute := line.time / 60000 % 60
  (line.IsTold → line.clock
      = String.ofList (Instant.padded 2 hour.toNat ++ ':' :: Instant.padded 2 minute.toNat)
    ∧ line.clock.length = 5)
  ∧ (¬ line.IsTold → line.clock = "")
  ∧ line.saidAt ≠ .error .overflow
  := by
  intro hour minute
  refine ⟨?told, ?untold, ?steps⟩
  case told =>
    intro htold
    have hhour : (line.time / 1000 % 86400).toNat / 60 / 60 = hour.toNat := by omega
    have hminute : (line.time / 1000 % 86400).toNat / 60 % 60 = minute.toNat := by omega
    have hclock : line.clock
        = String.ofList (Instant.padded 2 hour.toNat ++ ':' :: Instant.padded 2 minute.toNat) := by
      simp only [clock, saidAt_eq htime, if_pos htold]
      rw [hhour, hminute, twoDigits_eq (by omega), twoDigits_eq (by omega)]
    refine ⟨hclock, ?_⟩
    rw [hclock, String.length_ofList, List.length_append, List.length_cons,
      Instant.length_padded (by decide) (show hour.toNat < 100 by omega),
      Instant.length_padded (by decide) (show minute.toNat < 100 by omega)]
  case untold =>
    intro huntold
    simp only [clock, saidAt_eq htime, if_neg huntold]
  case steps =>
    rw [saidAt_eq htime]
    split
    · nofun
    · nofun

/-- A minute and a bit before 1970 it was 23:58, and the least time of 64 bits is not told. -/
theorem clock_tells_time_before_1970 :
  let early : ChatLine := ⟨"hello", -60001⟩
  let least : ChatLine := ⟨"hello", -0x8000000000000000⟩
  IsInt64 early.time ∧ early.IsTold ∧ early.clock = "23:58"
    ∧ IsInt64 least.time ∧ ¬ least.IsTold ∧ least.clock = "" ∧ least.saidAt ≠ .error .overflow
  := by
  intro early least
  have hearly : IsInt64 early.time := ⟨by decide, by decide⟩
  have hleast : IsInt64 least.time := ⟨by decide, by decide⟩
  have hclock := ((clock_tells_time early hearly).1 (by decide)).1
  have hshown : String.ofList (Instant.padded 2 23 ++ ':' :: Instant.padded 2 58) = "23:58" := by
    decide
  obtain ⟨-, hnone, hsteps⟩ := clock_tells_time least hleast
  exact ⟨hearly, by decide, hclock.trans hshown, hleast, by decide, hnone (by decide), hsteps⟩

end ChatPortal.Portal.ChatLine
