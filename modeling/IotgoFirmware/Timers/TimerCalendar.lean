import IotgoFirmware.Library.GregorianClock
import IotgoFirmware.Timers.TimerClock

/-!
# The calendar of the timers

What the clock shows at an instant of the calendar, and the seconds that
`compareTimeToKnowDate` counts to it.
-/

namespace IotgoFirmware.Timers.TimerCalendar

open IotgoFirmware.Library.CIntegers
open IotgoFirmware.Library.GregorianClock (Instant Valid leap daysInMonth daysBeforeMonth
  daysOfYear secondsSince daysSince days_in_month_bounds)
open IotgoFirmware.Timers.TimerClock

set_option autoImplicit false

/-- The time that the clock shows at an instant. -/
def shown (instant : Instant) : IoTgoGMTTime where
  year := UInt16.ofNat instant.year
  month := UInt8.ofNat instant.month
  day := UInt8.ofNat instant.day
  hour := UInt8.ofNat instant.hour
  minute := UInt8.ofNat instant.minute
  second := UInt8.ofNat instant.second

section Days

theorem foldl_add_of_nat (count : Nat → Nat) (term : Int → UInt32) (indices : List Nat)
    (same : ∀ index ∈ indices, term index = UInt32.ofNat (count index)) (start : UInt32) :
    (indices.map Nat.cast).foldl (fun sum index => sum + term index) start =
      start + UInt32.ofNat (indices.map count).sum := by
  induction indices generalizing start with
  | nil => simp
  | cons index rest ih =>
      rw [List.map_cons, List.foldl_cons,
        ih fun other inside => same other (List.mem_cons_of_mem index inside),
        same index List.mem_cons_self, List.map_cons, List.sum_cons, UInt32.ofNat_add,
        UInt32.add_assoc]

theorem cast_indices (indices : List Nat) :
    (do let index ← indices; pure (index : Int)) = indices.map Nat.cast :=
  List.flatMap_pure_eq_map _ _

theorem is_leap_year (year : Nat) : isLeapYear year = leap year := by
  have positive : ¬(year : Int) < 0 := Int.not_lt.mpr (Int.natCast_nonneg year)
  have four : (year : Int).tmod 4 = ((year % 4 : Nat) : Int) := rfl
  have hundred : (year : Int).tmod 100 = ((year % 100 : Nat) : Int) := rfl
  have fourHundred : (year : Int).tmod 400 = ((year % 400 : Nat) : Int) := rfl
  rw [isLeapYear, leap, if_neg positive, decide_eq_decide]
  omega

theorem days_of_month {month : Nat} (positive : 1 ≤ month) (last : month ≤ 12) (unset : Int)
    (year : Nat) : daysOfMonth unset year month = daysInMonth year month := by
  by_cases february : month = 2
  · subst february
    change (if isLeapYear year then (29 : Int) else 28) =
      ((if leap year then 29 else 28 : Nat) : Int)
    rw [is_leap_year]
    cases leap year <;> rfl
  · have months : month = 1 ∨ month = 3 ∨ month = 4 ∨ month = 5 ∨ month = 6 ∨ month = 7 ∨
        month = 8 ∨ month = 9 ∨ month = 10 ∨ month = 11 ∨ month = 12 := by omega
    rcases months with rfl | rfl | rfl | rfl | rfl | rfl | rfl | rfl | rfl | rfl | rfl <;> rfl

theorem days_before {month : Nat} (last : month ≤ 13) (unset : Int) (year : Nat) :
    daysBefore unset year month = UInt32.ofNat (daysBeforeMonth year month) := by
  have same : ∀ index ∈ List.range (month - 1),
      UInt32.ofInt (daysOfMonth unset year (sint8 (index + 1))) =
        UInt32.ofNat (daysInMonth year (index + 1)) := by
    intro index inside
    rw [List.mem_range] at inside
    have small : sint8 (index + 1) = ((index + 1 : Nat) : Int) := by
      unfold sint8
      omega
    rw [small, days_of_month (Nat.succ_pos index) (by omega), of_int_natCast]
  rw [daysBefore, cast_indices, foldl_add_of_nat _ _ _ same, UInt32.zero_add]
  rfl

/-- The year that `compareTimeToKnowDate` takes for 2016 is a leap year as well. -/
theorem days_before_leap (month : Nat) : daysBeforeMonth 0 month = daysBeforeMonth 2016 month :=
  rfl

theorem days_of_years_sum (unset : Int) (known year : Nat) :
    ((List.range (year - known)).map Nat.cast).foldl
        (fun sum index => sum + daysBefore unset (known + index) 13) 0 =
      UInt32.ofNat (IotgoFirmware.Library.GregorianClock.daysBeforeYear known year) := by
  have same : ∀ index ∈ List.range (year - known),
      daysBefore unset (known + index) 13 = UInt32.ofNat (daysOfYear (known + index)) := by
    intro index _
    exact days_before (Nat.le_refl 13) unset (known + index)
  rw [foldl_add_of_nat _ _ _ same, UInt32.zero_add]
  rfl

theorem days_before_year (unset : Int) (year : Nat) :
    daysBeforeYear unset year =
      UInt32.ofNat (IotgoFirmware.Library.GregorianClock.daysBeforeYear 2016 year) := by
  rw [daysBeforeYear, cast_indices]
  exact days_of_years_sum unset 2016 year

end Days

section Seconds

variable {instant : Instant}

theorem shown_byte {value : Nat} (small : value < 256) :
    (UInt8.ofNat value).toUInt32 = UInt32.ofNat value := by
  apply UInt32.toNat.inj
  simp only [UInt8.toNat_toUInt32, UInt8.toNat_ofNat', UInt32.toNat_ofNat']
  omega

theorem byte_to_nat {value : Nat} (small : value < 256) : (UInt8.ofNat value).toNat = value :=
  UInt8.toNat_ofNat_of_lt' small

/-- The minutes of days, hours and minutes, in the arithmetic of the clock. -/
theorem minutes_of_days (days hour minute : Nat) :
    UInt32.ofNat days * 24 * 60 + UInt32.ofNat hour * 60 + UInt32.ofNat minute =
      UInt32.ofNat ((days * 24 + hour) * 60 + minute) := by
  rw [Nat.add_mul, UInt32.ofNat_add, UInt32.ofNat_add, UInt32.ofNat_mul, UInt32.ofNat_mul,
    UInt32.ofNat_mul]
  rfl

theorem seconds_of_days (days hour minute second : Nat) :
    (UInt32.ofNat days * 24 * 60 + UInt32.ofNat hour * 60 + UInt32.ofNat minute) * 60 +
        UInt32.ofNat second =
      UInt32.ofNat (((days * 24 + hour) * 60 + minute) * 60 + second) := by
  have minutes : UInt32.ofNat (((days * 24 + hour) * 60 + minute) * 60) =
      UInt32.ofNat ((days * 24 + hour) * 60 + minute) * 60 := UInt32.ofNat_mul _ _
  rw [minutes_of_days, ← minutes, ← UInt32.ofNat_add]

theorem day_before (valid : Valid instant) :
    UInt32.ofInt ((shown instant).day.toNat - 1) = UInt32.ofNat (instant.day - 1) := by
  have day := valid.day
  have days := (days_in_month_bounds instant.year instant.month).2
  have byte : (shown instant).day.toNat = instant.day := byte_to_nat (by omega)
  have earlier : ((instant.day : Int) - 1) = ((instant.day - 1 : Nat) : Int) := by omega
  rw [byte, earlier, of_int_natCast]

theorem shown_year (small : instant.year < 65536) : (shown instant).year.toNat = instant.year :=
  UInt16.toNat_ofNat_of_lt' small

theorem shown_month (valid : Valid instant) : (shown instant).month.toNat = instant.month := by
  have last := valid.month.2
  apply byte_to_nat
  omega

theorem shown_hour (valid : Valid instant) :
    (shown instant).hour.toUInt32 = UInt32.ofNat instant.hour := by
  have within := valid.hour
  apply shown_byte
  omega

theorem shown_minute (valid : Valid instant) :
    (shown instant).minute.toUInt32 = UInt32.ofNat instant.minute := by
  have within := valid.minute
  apply shown_byte
  omega

theorem shown_second (valid : Valid instant) :
    (shown instant).second.toUInt32 = UInt32.ofNat instant.second := by
  have within := valid.second
  apply shown_byte
  omega

/-- From 2016 on the seconds since its beginning, up to the width of the counter. -/
theorem compare_time_to_know_date (valid : Valid instant) (small : instant.year < 65536)
    (unset : Int) :
    compareTimeToKnowDate unset (shown instant) =
      if instant.year < 2016 then 0 else UInt32.ofNat (secondsSince 2016 instant) := by
  have last : instant.month ≤ 13 := valid.month.2.trans (by decide)
  rw [compareTimeToKnowDate, shown_year small, shown_month valid, shown_hour valid,
    shown_minute valid, shown_second valid, day_before valid]
  by_cases early : instant.year < 2016
  · rw [if_pos early, if_pos early]
  · rw [if_neg early, if_neg early, secondsSince, ← seconds_of_days, daysSince,
      UInt32.ofNat_add, UInt32.ofNat_add]
    by_cases later : 2016 < instant.year
    · rw [if_pos later, days_before_year, days_before last]
    · have first : instant.year = 2016 := by omega
      have years : UInt32.ofNat
          (IotgoFirmware.Library.GregorianClock.daysBeforeYear 2016 2016) = 0 := rfl
      have months : daysBefore unset 0 instant.month =
          UInt32.ofNat (daysBeforeMonth 0 instant.month) := days_before last unset 0
      rw [if_neg later, first, years, months, days_before_leap, UInt32.zero_add]

end Seconds

end IotgoFirmware.Timers.TimerCalendar
