import IotgoFirmware.Library.GregorianClock

/-!
# Days of the Gregorian calendar

The order of the instants, which the count of seconds preserves, and the closed forms of
the days before a year and before a month.
-/

namespace IotgoFirmware.Library.GregorianDays

open IotgoFirmware.Library.GregorianClock

set_option autoImplicit false

def Before (earlier later : Instant) : Prop :=
  earlier.year < later.year ∨ earlier.year = later.year ∧
    (earlier.month < later.month ∨ earlier.month = later.month ∧
      (earlier.day < later.day ∨ earlier.day = later.day ∧
        (earlier.hour < later.hour ∨ earlier.hour = later.hour ∧
          (earlier.minute < later.minute ∨ earlier.minute = later.minute ∧
            earlier.second < later.second))))

/-- The leap years from 1 to `year`. -/
def leapYears (year : Nat) : Nat :=
  year / 4 - year / 100 + year / 400

/-- The year to which a month belongs when the years begin with March. -/
def marchYear (year month : Nat) : Nat :=
  if month < 3 then year - 1 else year

/-- The number of a month in such a year, which is 3 for March. -/
def marchMonth (month : Nat) : Nat :=
  if month < 3 then month + 12 else month

section Order

variable {known : Nat} {earlier later : Instant}

theorem before_total (first second : Instant) :
    Before first second ∨ first = second ∨ Before second first := by
  obtain ⟨year, month, day, hour, minute, tick⟩ := first
  obtain ⟨year', month', day', hour', minute', tick'⟩ := second
  simp only [Before, Instant.mk.injEq]
  omega

theorem days_before_month_mono (year : Nat) {month later : Nat} (order : month ≤ later) :
    daysBeforeMonth year month ≤ daysBeforeMonth year later := by
  induction order with
  | refl => exact Nat.le_refl _
  | @step later _ ih =>
      by_cases positive : 1 ≤ later
      · rw [Nat.succ_eq_add_one, days_before_month_succ positive]
        exact ih.trans (Nat.le_add_right _ _)
      · have first : later = 0 := by omega
        subst first
        exact ih

theorem days_before_year_mono {year later : Nat} (reached : known ≤ year) (order : year ≤ later) :
    daysBeforeYear known year ≤ daysBeforeYear known later := by
  induction order with
  | refl => exact Nat.le_refl _
  | step order ih =>
      rw [Nat.succ_eq_add_one, days_before_year_succ (reached.trans order)]
      exact ih.trans (Nat.le_add_right _ _)

/-- The day of an instant is one of the days of its year. -/
theorem day_of_year (valid : Valid earlier) :
    daysBeforeMonth earlier.year earlier.month + (earlier.day - 1) < daysOfYear earlier.year := by
  have month := valid.month
  have day := valid.day
  have days := @days_before_month_succ earlier.year earlier.month month.1
  have year : daysBeforeMonth earlier.year (earlier.month + 1) ≤
      daysBeforeMonth earlier.year 13 :=
    days_before_month_mono earlier.year (Nat.succ_le_succ month.2)
  unfold daysOfYear
  omega

/-- Of two instants the later one has more seconds before it. -/
theorem seconds_since_before (valid : Valid earlier) (valid' : Valid later)
    (reached : known ≤ earlier.year) (before : Before earlier later) :
    secondsSince known earlier < secondsSince known later := by
  have hour := valid.hour
  have minute := valid.minute
  have second := valid.second
  have day := valid.day
  have day' := valid'.day
  unfold secondsSince
  rcases before with year | ⟨year, month | ⟨month, rest⟩⟩
  · have inside := day_of_year valid
    have next := days_before_year_succ reached
    have years : daysBeforeYear known (earlier.year + 1) ≤ daysBeforeYear known later.year :=
      days_before_year_mono (reached.trans (Nat.le_succ _)) year
    unfold daysSince
    omega
  · have next := @days_before_month_succ earlier.year earlier.month valid.month.1
    have months : daysBeforeMonth earlier.year (earlier.month + 1) ≤
        daysBeforeMonth earlier.year later.month :=
      days_before_month_mono earlier.year month
    unfold daysSince
    rw [← year]
    omega
  · unfold daysSince
    rw [← year, ← month]
    omega

theorem seconds_since_injective (valid : Valid earlier) (valid' : Valid later)
    (reached : known ≤ earlier.year) (reached' : known ≤ later.year)
    (same : secondsSince known earlier = secondsSince known later) : earlier = later := by
  rcases before_total earlier later with before | equal | before
  · exact absurd same (seconds_since_before valid valid' reached before).ne
  · exact equal
  · exact absurd same (seconds_since_before valid' valid reached' before).ne'

theorem seconds_since_lt_iff (valid : Valid earlier) (valid' : Valid later)
    (reached : known ≤ earlier.year) (reached' : known ≤ later.year) :
    secondsSince known earlier < secondsSince known later ↔ Before earlier later := by
  constructor
  · intro less
    rcases before_total earlier later with before | equal | before
    · exact before
    · exact absurd less (equal ▸ Nat.lt_irrefl _)
    · exact absurd less (seconds_since_before valid' valid reached' before).asymm
  · exact seconds_since_before valid valid' reached

theorem valid_start (known : Nat) : Valid ⟨known, 1, 1, 0, 0, 0⟩ := by
  have days := days_in_month_bounds known 1
  exact ⟨⟨Nat.le_refl 1, Nat.succ_le_succ (Nat.zero_le 11)⟩, ⟨Nat.le_refl 1, by dsimp only; omega⟩,
    Nat.succ_pos 23, Nat.succ_pos 59, Nat.succ_pos 59⟩

theorem seconds_since_start (known : Nat) : secondsSince known ⟨known, 1, 1, 0, 0, 0⟩ = 0 := by
  simp [secondsSince, daysSince, daysBeforeYear, daysBeforeMonth]

/-- The seconds since a year count the seconds that pass from its beginning. -/
theorem after_start (valid : Valid later) (reached : known ≤ later.year) :
    after ⟨known, 1, 1, 0, 0, 0⟩ (secondsSince known later) = later := by
  apply seconds_since_injective (valid_after (valid_start known) _) valid (start_year _ _) reached
  rw [seconds_since_after (valid_start known) (Nat.le_refl known), seconds_since_start,
    Nat.zero_add]

/-- What so many seconds later is can be told from the count. -/
theorem after_eq {seconds : Nat} (valid : Valid earlier) (valid' : Valid later)
    (order : earlier.year ≤ later.year)
    (count : secondsSince earlier.year later = secondsSince earlier.year earlier + seconds) :
    after earlier seconds = later := by
  apply seconds_since_injective (valid_after valid seconds) valid' (start_year earlier seconds) order
  rw [seconds_since_after valid (Nat.le_refl _), count]

theorem after_eq_after {seconds rest : Nat} (valid : Valid earlier) (valid' : Valid later)
    (order : earlier.year ≤ later.year)
    (count : secondsSince earlier.year earlier + seconds =
      secondsSince earlier.year later + rest) :
    after earlier seconds = after later rest := by
  apply after_eq valid (valid_after valid' rest) (order.trans (start_year later rest))
  rw [seconds_since_after valid' order, count]

theorem after_next_day (valid : Valid earlier)
    (inside : earlier.day < daysInMonth earlier.year earlier.month) :
    after earlier 86400 = { earlier with day := earlier.day + 1 } := by
  have day := valid.day
  have valid' : Valid { earlier with day := earlier.day + 1 } :=
    ⟨valid.month, ⟨Nat.succ_pos _, inside⟩, valid.hour, valid.minute, valid.second⟩
  apply after_eq valid valid' (Nat.le_refl _)
  simp only [secondsSince, daysSince]
  omega

theorem after_next_month (valid : Valid earlier)
    (last : earlier.day = daysInMonth earlier.year earlier.month) (inside : earlier.month < 12) :
    after earlier 86400 = { earlier with month := earlier.month + 1, day := 1 } := by
  have day := valid.day
  have days := days_in_month_bounds earlier.year (earlier.month + 1)
  have months := @days_before_month_succ earlier.year earlier.month valid.month.1
  have valid' : Valid { earlier with month := earlier.month + 1, day := 1 } :=
    ⟨⟨Nat.succ_pos _, inside⟩, ⟨Nat.le_refl 1, by dsimp only; omega⟩, valid.hour, valid.minute,
      valid.second⟩
  apply after_eq valid valid' (Nat.le_refl _)
  simp only [secondsSince, daysSince]
  omega

theorem after_next_year (valid : Valid earlier)
    (last : earlier.day = daysInMonth earlier.year earlier.month)
    (december : earlier.month = 12) :
    after earlier 86400 = { earlier with year := earlier.year + 1, month := 1, day := 1 } := by
  have day := valid.day
  have days := days_in_month_bounds (earlier.year + 1) 1
  have months : daysOfYear earlier.year =
      daysBeforeMonth earlier.year 12 + daysInMonth earlier.year 12 :=
    days_before_month_succ (Nat.succ_pos 11)
  have years := days_before_year_succ (Nat.le_refl earlier.year)
  have valid' : Valid { earlier with year := earlier.year + 1, month := 1, day := 1 } :=
    ⟨⟨Nat.le_refl 1, Nat.succ_le_succ (Nat.zero_le 11)⟩, ⟨Nat.le_refl 1, by dsimp only; omega⟩,
      valid.hour, valid.minute, valid.second⟩
  rw [december] at last
  apply after_eq valid valid' (Nat.le_succ _)
  simp only [secondsSince, daysSince, december, days_before_month_one]
  omega

end Order

section ClosedForms

variable {known year month : Nat}

theorem quotient_succ (divisor year : Nat) :
    (year + 1) / divisor = year / divisor + if (year + 1) % divisor = 0 then 1 else 0 := by
  rw [Nat.succ_div]
  simp only [Nat.dvd_iff_mod_eq_zero]

theorem leap_years_succ (year : Nat) :
    leapYears (year + 1) = leapYears year + (leap (year + 1)).toNat := by
  have centuries : year / 100 ≤ year / 4 := Nat.div_le_div_left (by decide) (by decide)
  have cycles : (year + 1) % 400 = 0 → (year + 1) % 100 = 0 := by omega
  have quarters : (year + 1) % 100 = 0 → (year + 1) % 4 = 0 := by omega
  unfold leapYears leap
  rw [quotient_succ 4, quotient_succ 100, quotient_succ 400]
  by_cases cycle : (year + 1) % 400 = 0
  · rw [if_pos (quarters (cycles cycle)), if_pos (cycles cycle), if_pos cycle,
      decide_eq_true (.inr cycle), Bool.toNat_true]
    omega
  · rw [if_neg cycle]
    by_cases century : (year + 1) % 100 = 0
    · rw [if_pos (quarters century), if_pos century, decide_eq_false (by simp [century, cycle]),
        Bool.toNat_false]
      omega
    · rw [if_neg century]
      by_cases quarter : (year + 1) % 4 = 0
      · rw [if_pos quarter, decide_eq_true (.inl ⟨quarter, century⟩), Bool.toNat_true]
        omega
      · rw [if_neg quarter, decide_eq_false (by simp [quarter, cycle]), Bool.toNat_false]
        rfl

theorem days_of_february (year : Nat) : daysInMonth year 2 = 28 + (leap year).toNat := by
  change (if leap year then 29 else 28) = _
  cases leap year <;> rfl

/-- The months before March have 31 days each. -/
theorem days_before_winter (first : 1 ≤ month) (last : month ≤ 2) :
    daysBeforeMonth year month = 31 * (month - 1) := by
  have months : month = 1 ∨ month = 2 := by omega
  rcases months with rfl | rfl <;> rfl

theorem days_before_march (year : Nat) : daysBeforeMonth year 3 = 59 + (leap year).toNat := by
  have february := days_of_february year
  have second : daysBeforeMonth year 3 = daysBeforeMonth year 2 + daysInMonth year 2 :=
    days_before_month_succ (by decide)
  have first : daysBeforeMonth year 2 = 31 := days_before_winter (by decide) (Nat.le_refl 2)
  omega

/-- From March on the lengths of the months repeat after five of them. -/
theorem days_before_month_closed (march : 3 ≤ month) (last : month ≤ 13) :
    daysBeforeMonth year month = (153 * month - 457) / 5 + 59 + (leap year).toNat := by
  induction march with
  | refl =>
      rw [days_before_march]
  | @step month reached ih =>
      have months : month = 3 ∨ month = 4 ∨ month = 5 ∨ month = 6 ∨ month = 7 ∨ month = 8 ∨
          month = 9 ∨ month = 10 ∨ month = 11 ∨ month = 12 := by
        have march : 3 ≤ month := reached
        omega
      have length : (153 * month - 457) / 5 + daysInMonth year month =
          (153 * (month + 1) - 457) / 5 := by
        rcases months with rfl | rfl | rfl | rfl | rfl | rfl | rfl | rfl | rfl | rfl <;> rfl
      have next := @days_before_month_succ year month (by omega)
      have earlier := ih (Nat.le_of_succ_le last)
      rw [Nat.succ_eq_add_one]
      omega

/-- An instant lies before the end of its year. -/
theorem seconds_since_lt {instant : Instant} (valid : Valid instant)
    (reached : known ≤ instant.year) :
    secondsSince known instant < daysBeforeYear known (instant.year + 1) * 86400 := by
  have hour := valid.hour
  have minute := valid.minute
  have second := valid.second
  have inside := day_of_year valid
  have next := days_before_year_succ reached
  unfold secondsSince daysSince
  omega

theorem days_of_year_closed (year : Nat) : daysOfYear year = 365 + (leap year).toNat := by
  rw [daysOfYear, days_before_month_closed (by decide) (Nat.le_refl 13)]

theorem days_before_year_closed (positive : 1 ≤ known) (reached : known ≤ year) :
    daysBeforeYear known year + (365 * known + leapYears (known - 1)) =
      365 * year + leapYears (year - 1) := by
  induction reached with
  | refl => simp [daysBeforeYear]
  | @step year reached ih =>
      have leaps := leap_years_succ (year - 1)
      have same : year - 1 + 1 = year := Nat.sub_add_cancel (positive.trans reached)
      rw [same] at leaps
      rw [Nat.succ_eq_add_one, days_before_year_succ reached, days_of_year_closed,
        Nat.add_sub_cancel, leaps]
      omega

/-- When the years begin with March, the leap day is the last one of its year. -/
theorem days_since_march {instant : Instant} (valid : Valid instant) (positive : 1 ≤ known)
    (reached : known ≤ instant.year) :
    daysSince known instant + (365 * known + leapYears (known - 1)) =
      365 * marchYear instant.year instant.month +
        leapYears (marchYear instant.year instant.month) +
        (153 * marchMonth instant.month - 457) / 5 + 59 + (instant.day - 1) := by
  have month := valid.month
  have years := days_before_year_closed positive reached
  unfold daysSince marchYear marchMonth
  by_cases winter : instant.month < 3
  · have months := @days_before_winter instant.year instant.month month.1 (by omega)
    rw [if_pos winter, if_pos winter]
    omega
  · have months := @days_before_month_closed instant.year instant.month (by omega) (by omega)
    have leaps := leap_years_succ (instant.year - 1)
    have same : instant.year - 1 + 1 = instant.year :=
      Nat.sub_add_cancel (positive.trans reached)
    rw [same] at leaps
    rw [if_neg winter, if_neg winter]
    omega

end ClosedForms

end IotgoFirmware.Library.GregorianDays
