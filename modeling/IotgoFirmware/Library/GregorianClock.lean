import Mathlib.Algebra.BigOperators.Group.List.Basic
import Mathlib.Algebra.Ring.Nat
import Mathlib.Logic.Function.Iterate

/-!
# Seconds of the Gregorian calendar

Instants of the calendar, the second after an instant, and the number of seconds from
the beginning of a known year. The number goes up by one from each second to the next.
-/

namespace IotgoFirmware.Library.GregorianClock

set_option autoImplicit false

structure Instant where
  year : Nat
  month : Nat
  day : Nat
  hour : Nat
  minute : Nat
  second : Nat
deriving DecidableEq

def leap (year : Nat) : Bool :=
  (year % 4 = 0 ∧ year % 100 ≠ 0) ∨ year % 400 = 0

def daysInMonth (year month : Nat) : Nat :=
  if month ∈ [4, 6, 9, 11] then 30
  else if month = 2 then if leap year then 29 else 28
  else 31

/-- The days of the months before `month`. -/
def daysBeforeMonth (year month : Nat) : Nat :=
  ((List.range (month - 1)).map fun index => daysInMonth year (index + 1)).sum

def daysOfYear (year : Nat) : Nat :=
  daysBeforeMonth year 13

/-- The days of the years from `known` on before `year`. -/
def daysBeforeYear (known year : Nat) : Nat :=
  ((List.range (year - known)).map fun index => daysOfYear (known + index)).sum

structure Valid (instant : Instant) : Prop where
  month : 1 ≤ instant.month ∧ instant.month ≤ 12
  day : 1 ≤ instant.day ∧ instant.day ≤ daysInMonth instant.year instant.month
  hour : instant.hour < 24
  minute : instant.minute < 60
  second : instant.second < 60

def next (instant : Instant) : Instant :=
  if instant.second + 1 < 60 then { instant with second := instant.second + 1 }
  else if instant.minute + 1 < 60 then
    { instant with minute := instant.minute + 1, second := 0 }
  else if instant.hour + 1 < 24 then
    { instant with hour := instant.hour + 1, minute := 0, second := 0 }
  else if instant.day + 1 ≤ daysInMonth instant.year instant.month then
    { instant with day := instant.day + 1, hour := 0, minute := 0, second := 0 }
  else if instant.month + 1 ≤ 12 then
    { instant with month := instant.month + 1, day := 1, hour := 0, minute := 0, second := 0 }
  else ⟨instant.year + 1, 1, 1, 0, 0, 0⟩

def after (instant : Instant) (seconds : Nat) : Instant :=
  next^[seconds] instant

def daysSince (known : Nat) (instant : Instant) : Nat :=
  daysBeforeYear known instant.year + daysBeforeMonth instant.year instant.month +
    (instant.day - 1)

def secondsSince (known : Nat) (instant : Instant) : Nat :=
  ((daysSince known instant * 24 + instant.hour) * 60 + instant.minute) * 60 + instant.second

def secondsOfMonth (instant : Instant) : Nat :=
  (((instant.day - 1) * 24 + instant.hour) * 60 + instant.minute) * 60 + instant.second

section Sums

variable {known year month : Nat}

theorem days_before_month_succ (positive : 1 ≤ month) :
    daysBeforeMonth year (month + 1) = daysBeforeMonth year month + daysInMonth year month := by
  have count : month + 1 - 1 = month - 1 + 1 := by omega
  have last : month - 1 + 1 = month := by omega
  rw [daysBeforeMonth, count, List.range_succ, List.map_append, List.sum_append, List.map_singleton,
    List.sum_singleton, last]
  rfl

theorem days_before_month_one : daysBeforeMonth year 1 = 0 := rfl

theorem days_before_year_succ (reached : known ≤ year) :
    daysBeforeYear known (year + 1) = daysBeforeYear known year + daysOfYear year := by
  have count : year + 1 - known = year - known + 1 := by omega
  have last : known + (year - known) = year := by omega
  rw [daysBeforeYear, count, List.range_succ, List.map_append, List.sum_append, List.map_singleton,
    List.sum_singleton, last]
  rfl

end Sums

section Steps

variable {known : Nat} {instant : Instant}

theorem days_in_month_bounds (year month : Nat) :
    28 ≤ daysInMonth year month ∧ daysInMonth year month ≤ 31 := by
  unfold daysInMonth
  split
  · decide
  · split
    · split <;> decide
    · decide

theorem valid_next (valid : Valid instant) : Valid (next instant) := by
  have month := valid.month
  have day := valid.day
  unfold next
  split
  · rename_i second
    exact ⟨month, day, valid.hour, valid.minute, second⟩
  · split
    · rename_i minute
      exact ⟨month, day, valid.hour, minute, Nat.succ_pos 59⟩
    · split
      · rename_i hour
        exact ⟨month, day, hour, Nat.succ_pos 59, Nat.succ_pos 59⟩
      · split
        · rename_i later
          exact ⟨month, ⟨Nat.succ_pos _, later⟩, Nat.succ_pos 23, Nat.succ_pos 59,
            Nat.succ_pos 59⟩
        · split
          · rename_i later
            have days := days_in_month_bounds instant.year (instant.month + 1)
            exact ⟨⟨Nat.succ_pos _, later⟩, ⟨Nat.le_refl 1, by dsimp only; omega⟩,
              Nat.succ_pos 23, Nat.succ_pos 59, Nat.succ_pos 59⟩
          · have days := days_in_month_bounds (instant.year + 1) 1
            exact ⟨⟨Nat.le_refl 1, Nat.succ_le_succ (Nat.zero_le 11)⟩,
              ⟨Nat.le_refl 1, by dsimp only; omega⟩,
              Nat.succ_pos 23, Nat.succ_pos 59, Nat.succ_pos 59⟩

theorem next_year (instant : Instant) : instant.year ≤ (next instant).year := by
  unfold next
  split_ifs <;> simp

/-- The next second is counted one higher. -/
theorem seconds_since_next (valid : Valid instant) (reached : known ≤ instant.year) :
    secondsSince known (next instant) = secondsSince known instant + 1 := by
  have month := valid.month
  have day := valid.day
  have hour := valid.hour
  have minute := valid.minute
  have second := valid.second
  unfold next secondsSince
  split
  · simp only [daysSince]
    omega
  · split
    · simp only [daysSince]
      omega
    · split
      · simp only [daysSince]
        omega
      · split
        · simp only [daysSince]
          omega
        · split
          · have sum := @days_before_month_succ instant.year instant.month month.1
            simp only [daysSince]
            omega
          · have last : instant.month = 12 := by omega
            have sum : daysOfYear instant.year =
                daysBeforeMonth instant.year 12 + daysInMonth instant.year 12 :=
              days_before_month_succ (Nat.succ_pos 11)
            have year := days_before_year_succ reached
            have same : daysInMonth instant.year instant.month = daysInMonth instant.year 12 := by
              rw [last]
            simp only [daysSince, last, days_before_month_one]
            omega

theorem after_succ (instant : Instant) (seconds : Nat) :
    after instant (seconds + 1) = next (after instant seconds) :=
  Function.iterate_succ_apply' ..

theorem valid_after (valid : Valid instant) (seconds : Nat) : Valid (after instant seconds) := by
  induction seconds with
  | zero => exact valid
  | succ seconds ih =>
      rw [after_succ]
      exact valid_next ih

theorem after_year (instant : Instant) {earlier later : Nat} (order : earlier ≤ later) :
    (after instant earlier).year ≤ (after instant later).year := by
  induction order with
  | refl => exact Nat.le_refl _
  | step _ ih =>
      rw [after_succ]
      exact Nat.le_trans ih (next_year _)

theorem start_year (instant : Instant) (seconds : Nat) :
    instant.year ≤ (after instant seconds).year :=
  after_year instant (Nat.zero_le seconds)

theorem next_year_le (instant : Instant) : (next instant).year ≤ instant.year + 1 := by
  unfold next
  split_ifs <;> simp

theorem after_year_le (instant : Instant) (seconds : Nat) :
    (after instant seconds).year ≤ instant.year + seconds := by
  induction seconds with
  | zero => exact Nat.le_refl _
  | succ seconds ih =>
      rw [after_succ]
      exact Nat.le_trans (next_year_le _) (Nat.succ_le_succ ih)

/-- So many seconds later the count is so much higher. -/
theorem seconds_since_after (valid : Valid instant) (reached : known ≤ instant.year)
    (seconds : Nat) :
    secondsSince known (after instant seconds) = secondsSince known instant + seconds := by
  induction seconds with
  | zero => rfl
  | succ seconds ih =>
      rw [after_succ, seconds_since_next (valid_after valid seconds)
        (Nat.le_trans reached (start_year instant seconds)), ih]
      rfl

/-- The next second is counted one higher, unless another month begins with it. -/
theorem seconds_of_month_next (valid : Valid instant) :
    (next instant).year = instant.year ∧
        secondsOfMonth (next instant) = secondsOfMonth instant + 1 ∨
      secondsOfMonth (next instant) = 0 := by
  have day := valid.day
  have hour := valid.hour
  have minute := valid.minute
  have second := valid.second
  unfold next secondsOfMonth
  split_ifs <;> dsimp only <;> omega

/-- Another year begins with its first second. -/
theorem seconds_since_new_year (newYear : (next instant).year ≠ instant.year) :
    secondsSince (next instant).year (next instant) = 0 := by
  unfold next at newYear ⊢
  split_ifs at newYear ⊢
  any_goals exact absurd rfl newYear
  simp [secondsSince, daysSince, daysBeforeYear, daysBeforeMonth]

end Steps

end IotgoFirmware.Library.GregorianClock
