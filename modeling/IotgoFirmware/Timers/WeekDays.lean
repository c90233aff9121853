import Mathlib.Algebra.Ring.Int.Defs
import IotgoFirmware.Library.GregorianDays
import IotgoFirmware.Timers.TimerCalendar

/-!
# The days of the week

`getWeek` computes the day of the week from the parts of a date, by a congruence for years
that begin with March. It is what counting the days one by one gives.
-/

namespace IotgoFirmware.Timers.WeekDays

open IotgoFirmware.Library.CIntegers
open IotgoFirmware.Library.GregorianClock (Instant Valid daysSince daysInMonth daysBeforeMonth
  days_in_month_bounds)
open IotgoFirmware.Library.GregorianDays
open IotgoFirmware.Timers.TimerClock
open IotgoFirmware.Timers.TimerCalendar

set_option autoImplicit false

/-- The days of the months before `month`, as `daysOfMonth` has them. -/
def countedMonths (unset : Int) (year month : Nat) : Int :=
  ((List.range (month - 1)).map fun index => daysOfMonth unset year (index + 1 : Nat)).sum

/-- The days since 2016-01-01, as `daysOfMonth` has them. -/
def countedDays (unset : Int) (year month day : Nat) : Int :=
  ((List.range (year - 2016)).map fun index => countedMonths unset (2016 + index) 13).sum +
    countedMonths unset year month + (day - 1)

theorem sum_of_casts {term : Nat → Int} {count : Nat → Nat} (indices : List Nat)
    (same : ∀ index ∈ indices, term index = count index) :
    (indices.map term).sum = (indices.map count).sum := by
  induction indices with
  | nil => rfl
  | cons index rest ih =>
      rw [List.map_cons, List.map_cons, List.sum_cons, List.sum_cons,
        ih fun other inside => same other (List.mem_cons_of_mem index inside),
        same index List.mem_cons_self, Int.natCast_add]

theorem counted_months (unset : Int) (year : Nat) {month : Nat} (last : month ≤ 13) :
    countedMonths unset year month = daysBeforeMonth year month := by
  apply sum_of_casts
  intro index inside
  rw [List.mem_range] at inside
  exact days_of_month (Nat.succ_pos index) (by omega) unset year

theorem counted_days {instant : Instant} (valid : Valid instant) (unset : Int) :
    countedDays unset instant.year instant.month instant.day = daysSince 2016 instant := by
  have day := valid.day.1
  have months := counted_months unset instant.year (valid.month.2.trans (Nat.le_succ 12))
  have years : ((List.range (instant.year - 2016)).map fun index =>
      countedMonths unset (2016 + index) 13).sum =
        IotgoFirmware.Library.GregorianClock.daysBeforeYear 2016 instant.year := by
    apply sum_of_casts
    intro index _
    exact counted_months unset (2016 + index) (Nat.le_refl 13)
  rw [countedDays, months, years, daysSince]
  omega

section Congruence

theorem positive_remainder (w : Int) : (w.tmod 7 + 7).tmod 7 = w % 7 := by
  have above : -7 < w.tmod 7 := Int.lt_tmod_of_pos w (by decide)
  have quotient := Int.tmod_add_mul_tdiv w 7
  rw [Int.tmod_eq_emod_of_nonneg (by omega)]
  omega

theorem week_sum (year month day : Nat) (march : 3 ≤ month) :
    ((year % 100 : Nat) + (year % 100 / 4 : Nat) + (year / 100 / 4 : Nat) -
        2 * (year / 100 : Nat) + ((26 * (month + 1) / 10 : Nat) + day - 1) : Int) =
      (year + leapYears year + (153 * month - 457) / 5 + day + 93 : Nat) -
        7 * (4 * month + 18 * (year / 100) : Nat) := by
  have months : 26 * (month + 1) / 10 + 28 * month = (153 * month - 457) / 5 + 94 := by omega
  have quarters : year % 100 / 4 + 25 * (year / 100) = year / 4 := by omega
  have centuries : year / 100 / 4 = year / 400 := by omega
  unfold leapYears
  omega

theorem week_parts_fit {year month : Nat} (last : month ≤ 12) (few : year ≤ 12799) :
    sint8 ((month : Int) + 12) = month + 12 ∧
      sint8 ((marchYear year month : Int).tdiv 100) = (marchYear year month / 100 : Nat) := by
  have before : marchYear year month ≤ year := by
    unfold marchYear
    split <;> omega
  have century : (marchYear year month : Int).tdiv 100 = (marchYear year month / 100 : Nat) := rfl
  rw [century]
  constructor <;> unfold sint8 <;> omega

theorem get_week_sum {year month : Nat} (day : Nat) (first : 1 ≤ month) (last : month ≤ 12)
    (positive : 1 ≤ year) (few : year ≤ 12799) :
    getWeek year month day =
      ((marchYear year month + leapYears (marchYear year month) +
        (153 * marchMonth month - 457) / 5 + day + 93 : Nat) : Int) % 7 := by
  obtain ⟨monthFits, centuryFits⟩ := week_parts_fit last few
  have march : 3 ≤ marchMonth month := by
    unfold marchMonth
    split <;> omega
  have yearOf : (if (month : Int) < 3 then (year : Int) - 1 else year) =
      (marchYear year month : Nat) := by
    unfold marchYear
    split_ifs <;> omega
  have monthOf : (if (month : Int) < 3 then sint8 ((month : Int) + 12) else month) =
      (marchMonth month : Nat) := by
    unfold marchMonth
    rw [monthFits]
    split_ifs <;> omega
  have sum := week_sum (marchYear year month) (marchMonth month) day march
  unfold getWeek
  dsimp only
  rw [yearOf, monthOf, centuryFits, positive_remainder]
  change ((marchYear year month % 100 : Nat) + (marchYear year month % 100 / 4 : Nat) +
    (marchYear year month / 100 / 4 : Nat) - 2 * (marchYear year month / 100 : Nat) +
      ((26 * (marchMonth month + 1) / 10 : Nat) + day - 1) : Int) % 7 = _
  rw [sum]
  omega

end Congruence

theorem week_day_counted {instant : Instant} (valid : Valid instant) (first : 2016 ≤ instant.year)
    (last : instant.year ≤ 12799) (unset : Int) :
    getWeek instant.year instant.month instant.day =
        (5 + countedDays unset instant.year instant.month instant.day) % 7 ∧
      sint8 ((instant.month : Int) + 12) = instant.month + 12 ∧
      sint8 ((marchYear instant.year instant.month : Int).tdiv 100) =
        (marchYear instant.year instant.month : Int).tdiv 100 ∧
      sint8 (getWeek instant.year instant.month instant.day) =
        getWeek instant.year instant.month instant.day := by
  have month := valid.month
  have day := valid.day.1
  obtain ⟨monthFits, centuryFits⟩ := week_parts_fit month.2 last
  have range := get_week_range instant.year instant.month instant.day
  have days := @days_since_march 2016 instant valid (by decide) first
  have known : leapYears (2016 - 1) = 488 := rfl
  refine ⟨?_, monthFits, centuryFits, ?_⟩
  · rw [known] at days
    -- The two counts differ by whole weeks.
    have weeks : (5 + daysSince 2016 instant : Int) =
        (marchYear instant.year instant.month +
          leapYears (marchYear instant.year instant.month) +
          (153 * marchMonth instant.month - 457) / 5 + instant.day + 93 : Nat) +
        7 * (52 * marchYear instant.year instant.month - 105194 : Int) := by
      omega
    rw [get_week_sum instant.day month.1 month.2 (by omega) last, counted_days valid, weeks,
      Int.add_mul_emod_self_left]
  · unfold sint8
    omega

/-- 29 February 2400 is a Tuesday. -/
theorem week_day_of_leap_century :
    getWeek 2400 2 29 = (5 + countedDays 0 2400 2 29) % 7 ∧ getWeek 2400 2 29 = 2 :=
  ⟨(@week_day_counted ⟨2400, 2, 29, 0, 0, 0⟩ ⟨by decide, by decide, by decide, by decide,
    by decide⟩ (by decide) (by decide) 0).1, by decide⟩

end IotgoFirmware.Timers.WeekDays
