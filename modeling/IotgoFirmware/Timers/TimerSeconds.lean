import IotgoFirmware.Library.GregorianDays
import IotgoFirmware.Timers.TimerMonitor

/-!
# The seconds of the clock

`compareTimeToKnowDate` counts from 2016 and `minuteDiffFromKnownYear` from 2015. For the
years 2016 to 2150 both are the seconds of the calendar, which fit into 32 bits.
-/

namespace IotgoFirmware.Timers.TimerSeconds

open IotgoFirmware.Library.CIntegers
open IotgoFirmware.Library.GregorianClock (Instant Valid secondsSince daysSince after
  days_before_year_succ)
open IotgoFirmware.Library.GregorianDays
open IotgoFirmware.Timers.TimerClock
open IotgoFirmware.Timers.TimerCalendar
open IotgoFirmware.Timers.TimerMonitor

set_option autoImplicit false

/-- An instant of the years 2016 to 2150. -/
structure ClockInstant where
  instant : Instant
  valid : Valid instant
  first : 2016 ≤ instant.year
  last : instant.year ≤ 2150

section Bounds

variable {instant : Instant}

theorem seconds_of_years (valid : Valid instant) {known bound : Nat}
    (reached : known ≤ instant.year) (small : instant.year < bound) :
    secondsSince known instant <
      IotgoFirmware.Library.GregorianClock.daysBeforeYear known bound * 86400 := by
  have year := seconds_since_lt valid reached
  have years := days_before_year_mono (reached.trans (Nat.le_succ _)) small
  exact year.trans_le (Nat.mul_le_mul_right 86400 years)

theorem days_to_2151 : IotgoFirmware.Library.GregorianClock.daysBeforeYear 2015 2151 = 49673 := by
  have days := @days_before_year_closed 2015 2151 (by omega) (by omega)
  have first : leapYears (2015 - 1) = 488 := rfl
  have last : leapYears (2151 - 1) = 521 := rfl
  rw [first, last] at days
  exact Nat.add_right_cancel days

theorem seconds_from_2015_fit (valid : Valid instant) (first : 2015 ≤ instant.year)
    (last : instant.year ≤ 2150) : secondsSince 2015 instant < 4294967296 := by
  have years := @seconds_of_years instant valid 2015 2151 first (by omega)
  rw [days_to_2151] at years
  exact years.trans (by decide)

/-- 2015 has 365 days. -/
theorem seconds_from_2015 (first : 2016 ≤ instant.year) :
    secondsSince 2015 instant = secondsSince 2016 instant + 365 * 86400 := by
  have years := @days_before_year_closed 2015 instant.year (by omega) (Nat.le_of_succ_le first)
  have years' := @days_before_year_closed 2016 instant.year (by omega) first
  have known : leapYears (2015 - 1) = 488 := rfl
  have known' : leapYears (2016 - 1) = 488 := rfl
  rw [known] at years
  rw [known'] at years'
  unfold secondsSince daysSince
  omega

/-- The 365 days before 2016 leave the count within 32 bits. -/
theorem ClockInstant.fit (time : ClockInstant) :
    secondsSince 2016 time.instant + 365 * 86400 < 4294967296 := by
  rw [← seconds_from_2015 time.first]
  exact seconds_from_2015_fit time.valid (Nat.le_of_succ_le time.first) time.last

end Bounds

section Counters

variable {instant : Instant}

/-- The counter of `compareTimeToKnowDate` does not overflow. -/
theorem compare_time_exact (valid : Valid instant) (first : 2016 ≤ instant.year)
    (small : instant.year < 65536) (fit : secondsSince 2016 instant < 4294967296) (unset : Int) :
    (compareTimeToKnowDate unset (shown instant)).toNat = secondsSince 2016 instant := by
  rw [compare_time_to_know_date valid small unset, if_neg (Nat.not_lt.2 first),
    UInt32.toNat_ofNat_of_lt' fit]

theorem compare_time_of_clock (time : ClockInstant) (unset : Int) :
    (compareTimeToKnowDate unset (shown time.instant)).toNat = secondsSince 2016 time.instant :=
  compare_time_exact time.valid time.first (by have last := time.last; omega)
    (Nat.lt_of_add_right_lt time.fit) unset

theorem minute_diff_second (valid : Valid instant) (unset : Int) :
    (minuteDiffFromKnownYear unset (shown instant)).second = instant.second := by
  have second := valid.second
  have byte : (shown instant).second.toNat = instant.second := byte_to_nat (by omega)
  change sint8 (shown instant).second.toNat = _
  rw [byte, sint8]
  omega

theorem minute_diff_minute (valid : Valid instant) (first : 2016 ≤ instant.year)
    (last : instant.year ≤ 2150) (unset : Int) :
    (minuteDiffFromKnownYear unset (shown instant)).minute =
      ((daysSince 2015 instant * 24 + instant.hour) * 60 + instant.minute : Nat) := by
  have month : instant.month ≤ 13 := valid.month.2.trans (by decide)
  have later : 2015 < instant.year := first
  have fit := seconds_from_2015_fit valid (Nat.le_of_succ_le first) last
  unfold secondsSince at fit
  rw [minuteDiffFromKnownYear, shown_year (by omega), shown_month valid, shown_hour valid,
    shown_minute valid, day_before valid]
  dsimp only
  rw [if_pos later, days_of_years, days_before month, ← UInt32.ofNat_add, ← UInt32.ofNat_add]
  change sint32 (UInt32.ofNat (daysSince 2015 instant) * 24 * 60 +
    UInt32.ofNat instant.hour * 60 + UInt32.ofNat instant.minute).toNat = _
  rw [minutes_of_days, UInt32.toNat_ofNat_of_lt' (by change _ < 4294967296; omega), sint32]
  omega

theorem seconds_of_diff (valid : Valid instant) (first : 2016 ≤ instant.year)
    (last : instant.year ≤ 2150) (unset : Int) :
    (secondsOfDiff (minuteDiffFromKnownYear unset (shown instant))).toNat =
      secondsSince 2015 instant := by
  have fit := seconds_from_2015_fit valid (Nat.le_of_succ_le first) last
  rw [minute_diff_from_known_year valid (by omega), monitorSeconds,
    if_pos (Nat.le_of_succ_le first), UInt32.toNat_ofNat_of_lt' fit]

/-- The difference of two counts, as minutes and seconds. -/
theorem minute_diff_exact (unset : Int) (time1 time2 : ClockInstant)
    (order : secondsSince 2016 time2.instant ≤ secondsSince 2016 time1.instant) :
    minuteDiff unset (shown time1.instant) (shown time2.instant) =
      { minute := ((secondsSince 2016 time1.instant - secondsSince 2016 time2.instant) / 60 : Nat)
        second :=
          ((secondsSince 2016 time1.instant - secondsSince 2016 time2.instant) % 60 : Nat) } := by
  have count1 := seconds_of_diff time1.valid time1.first time1.last unset
  have count2 := seconds_of_diff time2.valid time2.first time2.last unset
  have fit := seconds_from_2015_fit time1.valid (Nat.le_of_succ_le time1.first) time1.last
  rw [seconds_from_2015 time1.first] at count1 fit
  rw [seconds_from_2015 time2.first] at count2
  unfold minuteDiff
  generalize secondsOfDiff (minuteDiffFromKnownYear unset (shown time1.instant)) = val1 at *
  generalize secondsOfDiff (minuteDiffFromKnownYear unset (shown time2.instant)) = val2 at *
  have later : ¬val1 < val2 := by
    rw [UInt32.lt_iff_toNat_lt]
    omega
  have difference : (val1 - val2).toNat =
      secondsSince 2016 time1.instant - secondsSince 2016 time2.instant := by
    rw [UInt32.toNat_sub_of_le _ _ (UInt32.not_lt.1 later)]
    omega
  have sixty : (60 : UInt32).toNat = 60 := rfl
  have minute : sint32 ((val1 - val2) / 60).toNat =
      ((secondsSince 2016 time1.instant - secondsSince 2016 time2.instant) / 60 : Nat) := by
    rw [UInt32.toNat_div, difference, sixty, sint32]
    omega
  have second : sint8 ((val1 - val2) % 60).toNat =
      ((secondsSince 2016 time1.instant - secondsSince 2016 time2.instant) % 60 : Nat) := by
    rw [UInt32.toNat_mod, difference, sixty, sint8]
    omega
  dsimp only
  rw [if_neg later, minute, second]

theorem calendar_to_seconds (unset : Int) (time1 time2 : ClockInstant) :
    (compareTimeToKnowDate unset (shown time1.instant)).toNat =
        secondsSince 2016 time1.instant ∧
      after ⟨2016, 1, 1, 0, 0, 0⟩
          (compareTimeToKnowDate unset (shown time1.instant)).toNat = time1.instant ∧
      (compareTimeToKnowDate unset (shown time1.instant) <
          compareTimeToKnowDate unset (shown time2.instant) ↔
        Before time1.instant time2.instant) ∧
      (minuteDiffFromKnownYear unset (shown time1.instant)).minute * 60 +
          (minuteDiffFromKnownYear unset (shown time1.instant)).second =
        ((compareTimeToKnowDate unset (shown time1.instant)).toNat + 365 * 86400 : Nat) ∧
      (¬Before time1.instant time2.instant →
        minuteDiff unset (shown time1.instant) (shown time2.instant) =
          { minute :=
              ((secondsSince 2016 time1.instant - secondsSince 2016 time2.instant) / 60 : Nat)
            second :=
              ((secondsSince 2016 time1.instant - secondsSince 2016 time2.instant) % 60 :
                Nat) }) := by
  have count1 := compare_time_of_clock time1 unset
  have count2 := compare_time_of_clock time2 unset
  have order := seconds_since_lt_iff time1.valid time2.valid time1.first time2.first
  refine ⟨count1, ?_, ?_, ?_, ?_⟩
  · rw [count1]
    exact after_start time1.valid time1.first
  · rw [UInt32.lt_iff_toNat_lt, count1, count2]
    exact order
  · rw [count1, minute_diff_minute time1.valid time1.first time1.last,
      minute_diff_second time1.valid, ← seconds_from_2015 time1.first]
    unfold secondsSince
    omega
  · intro notBefore
    apply minute_diff_exact
    rw [← order] at notBefore
    exact Nat.le_of_not_lt notBefore

/-- 1 March 2100, of a year that is not a leap year. -/
def marchOf2100 : ClockInstant where
  instant := ⟨2100, 3, 1, 0, 0, 0⟩
  valid := ⟨by decide, by decide, by decide, by decide, by decide⟩
  first := by decide
  last := by decide

def februaryOf2100 : ClockInstant where
  instant := ⟨2100, 2, 28, 23, 58, 59⟩
  valid := ⟨by decide, by decide, by decide, by decide, by decide⟩
  first := by decide
  last := by decide

theorem minute_diff_of_march_2100 :
    minuteDiff 0 (shown marchOf2100.instant) (shown februaryOf2100.instant) = ⟨1, 1⟩ := by
  have later : ¬Before marchOf2100.instant februaryOf2100.instant := by
    simp [Before, marchOf2100, februaryOf2100]
  have difference : secondsSince 2016 marchOf2100.instant -
      secondsSince 2016 februaryOf2100.instant = 61 := by
    decide +kernel
  have diff := (calendar_to_seconds 0 marchOf2100 februaryOf2100).2.2.2.2 later
  rw [difference] at diff
  exact diff

end Counters

end IotgoFirmware.Timers.TimerSeconds
