import Mathlib.Algebra.Order.Group.Nat
import Mathlib.Data.Nat.ModEq

/-!
# Two events in every period

A period of so many units starts with one event and has a second one after some of its
units. A test that divides the ticks elapsed on a counter of limited width is compared
with the two events.
-/

namespace IotgoFirmware.Library.PeriodicEvents

set_option autoImplicit false

def Starting (unit interval tick : Nat) : Prop :=
  tick % unit = 0 ∧ tick / unit % interval = 0

/-- The second event of a period is at the tick. -/
def Ending (unit interval duration tick : Nat) : Prop :=
  tick % unit = 0 ∧ tick / unit % interval = duration

/-- Up to the last tick one event starts each period and the other one follows. -/
def OncePerPeriod (unit interval duration last : Nat) (starts ends : Nat → Prop) : Prop :=
  ∀ tick ≤ last,
    (starts tick ↔ ∃ n, tick = unit * (n * interval)) ∧
      (ends tick ↔ ∃ n, tick = unit * (n * interval + duration))

/-- The elapsed units leave a multiple of the duration, but they are no whole periods. -/
def TestEnds (unit interval duration seen : Nat) : Prop :=
  seen % unit = 0 ∧ seen / unit % interval ≠ 0 ∧ seen / unit % interval % duration = 0

/-- The ticks elapsed since the first one pass a test, on a counter that does not show less
than it did then. -/
def Seen (count : Nat → Nat) (test : Nat → Prop) (tick : Nat) : Prop :=
  count 0 ≤ count tick ∧ test (count tick - count 0)

/-- The counter goes up by one or starts again from zero. -/
def Restarting (count : Nat → Nat) : Prop :=
  ∀ tick, count (tick + 1) = count tick + 1 ∨ count (tick + 1) = 0

/-- No tick up to the last one shows the test apart from the two events: none is due while
the counter shows less than at first, a period starts whenever it shows as much again, and
it does not come to the second multiple of the duration within a period. -/
structure Exact (unit interval duration : Nat) (count : Nat → Nat) (last : Nat) : Prop where
  counted : ∀ tick ≤ last,
    Starting unit interval tick ∨ Ending unit interval duration tick → count 0 ≤ count tick
  aligned : ∀ tick ≤ last, count tick = count 0 → Starting unit interval tick
  single : ∀ tick ≤ last, count tick = count 0 + unit * (2 * duration) → interval ≤ 2 * duration

/-- The same of a counter that starts again after so many ticks only. -/
structure Unwrapped (unit modulus interval duration base last : Nat) : Prop where
  within : last < modulus
  counted : ∀ tick ≤ last,
    Starting unit interval tick ∨ Ending unit interval duration tick → base + tick < modulus
  single : interval ≤ 2 * duration ∨ last < unit * (2 * duration) ∨
    modulus ≤ base + unit * (2 * duration)

section Events

variable {unit interval duration tick : Nat}

theorem tick_of_units (whole : tick % unit = 0) : unit * (tick / unit) = tick :=
  Nat.mul_div_cancel' (Nat.dvd_of_mod_eq_zero whole)

theorem ending_iff (units : 0 < unit) (shorter : duration < interval) :
    Ending unit interval duration tick ↔ ∃ n, tick = unit * (n * interval + duration) := by
  constructor
  · rintro ⟨whole, rest⟩
    refine ⟨tick / unit / interval, ?_⟩
    have parts := Nat.div_add_mod' (tick / unit) interval
    rw [rest] at parts
    rw [parts, tick_of_units whole]
  · rintro ⟨n, rfl⟩
    refine ⟨Nat.mul_mod_right .., ?_⟩
    rw [Nat.mul_div_cancel_left _ units, Nat.mul_add_mod', Nat.mod_eq_of_lt shorter]

theorem starting_iff (units : 0 < unit) (positive : 0 < interval) :
    Starting unit interval tick ↔ ∃ n, tick = unit * (n * interval) :=
  ending_iff units positive

theorem once_per_period_iff {last : Nat} {starts ends : Nat → Prop} (units : 0 < unit)
    (shorter : duration < interval) :
    OncePerPeriod unit interval duration last starts ends ↔
      ∀ tick ≤ last, (starts tick ↔ Starting unit interval tick) ∧
        (ends tick ↔ Ending unit interval duration tick) := by
  unfold OncePerPeriod
  simp only [starting_iff units (Nat.zero_lt_of_lt shorter), ending_iff units shorter]

end Events

section Counter

variable {unit modulus interval duration base last : Nat} {count : Nat → Nat}

theorem counted_from (restarting : Restarting count) {tick : Nat}
    (reached : count 0 ≤ count tick) :
    ∃ origin, tick = origin + (count tick - count 0) ∧
      ∀ step ≤ count tick - count 0, count (origin + step) = count 0 + step := by
  have fresh : ∀ tick, count tick = count 0 → ∃ origin,
      tick = origin + (count tick - count 0) ∧
        ∀ step ≤ count tick - count 0, count (origin + step) = count 0 + step := by
    intro tick same
    refine ⟨tick, by omega, ?_⟩
    intro step few
    have none : step = 0 := by omega
    rw [none, Nat.add_zero, same, Nat.add_zero]
  induction tick with
  | zero => exact fresh 0 rfl
  | succ tick ih =>
      by_cases same : count (tick + 1) = count 0
      · exact fresh (tick + 1) same
      · have next : count (tick + 1) = count tick + 1 :=
          (restarting tick).resolve_right (by omega)
        obtain ⟨origin, place, counted⟩ := ih (by omega)
        refine ⟨origin, by omega, ?_⟩
        intro step few
        by_cases last : step = count (tick + 1) - count 0
        · have here : origin + step = tick + 1 := by omega
          rw [here]
          omega
        · exact counted step (by omega)

theorem phase_shift {origin : Nat} (units : 0 < unit) (starting : Starting unit interval origin)
    (seen : Nat) :
    (origin + seen) % unit = seen % unit ∧
      (origin + seen) / unit % interval = seen / unit % interval := by
  obtain ⟨whole, periods⟩ := starting
  obtain ⟨count, rfl⟩ := Nat.dvd_of_mod_eq_zero whole
  rw [Nat.mul_div_cancel_left _ units] at periods
  rw [Nat.mul_add_mod, Nat.mul_add_div units, Nat.add_mod, periods, Nat.zero_add, Nat.mod_mod]
  exact ⟨rfl, rfl⟩

theorem starting_shift {origin : Nat} (units : 0 < unit)
    (starting : Starting unit interval origin) (seen : Nat) :
    Starting unit interval (origin + seen) ↔ Starting unit interval seen := by
  obtain ⟨within, period⟩ := phase_shift units starting seen
  rw [Starting, Starting, within, period]

theorem ending_shift {origin : Nat} (units : 0 < unit)
    (starting : Starting unit interval origin) (seen : Nat) :
    Ending unit interval duration (origin + seen) ↔ Ending unit interval duration seen := by
  obtain ⟨within, period⟩ := phase_shift units starting seen
  rw [Ending, Ending, within, period]

/-- A multiple of the duration within a period, from twice the duration on if it is not
the duration itself. -/
theorem second_multiple {rest : Nat} (within : rest ≠ 0) (multiple : rest % duration = 0)
    (other : rest ≠ duration) : 2 * duration ≤ rest := by
  obtain ⟨count, rfl⟩ := Nat.dvd_of_mod_eq_zero multiple
  rw [Nat.mul_comm duration]
  refine Nat.mul_le_mul_right duration ?_
  by_contra few
  have cases : count = 0 ∨ count = 1 := by omega
  rcases cases with rfl | rfl
  · exact within rfl
  · exact other (Nat.mul_one duration)

theorem test_ends_iff {seen : Nat} (positive : 0 < duration) (shorter : duration < interval)
    (single : unit * (2 * duration) ≤ seen → interval ≤ 2 * duration) :
    TestEnds unit interval duration seen ↔ Ending unit interval duration seen := by
  constructor
  · rintro ⟨whole, within, multiple⟩
    refine ⟨whole, ?_⟩
    by_contra other
    have double := second_multiple within multiple other
    have rest := Nat.mod_lt (seen / unit) (Nat.zero_lt_of_lt shorter)
    have units : 2 * duration ≤ seen / unit := double.trans (Nat.mod_le ..)
    have ticks := Nat.mul_le_mul_left unit units
    rw [tick_of_units whole] at ticks
    have few := single ticks
    omega
  · rintro ⟨whole, rest⟩
    refine ⟨whole, ?_, ?_⟩
    · omega
    · rw [rest, Nat.mod_self]

theorem test_ends_double (units : 0 < unit) (positive : 0 < duration)
    (longer : 2 * duration < interval) :
    TestEnds unit interval duration (unit * (2 * duration)) ∧
      ¬Ending unit interval duration (unit * (2 * duration)) := by
  rw [TestEnds, Ending, Nat.mul_div_cancel_left _ units, Nat.mod_eq_of_lt longer]
  refine ⟨⟨Nat.mul_mod_right .., by omega, Nat.mul_mod_left ..⟩, ?_⟩
  rintro ⟨-, double⟩
  omega

theorem exact_of_once (units : 0 < unit) (positive : 0 < duration)
    (shorter : duration < interval) (restarting : Restarting count)
    (once : OncePerPeriod unit interval duration last (Seen count (Starting unit interval))
      (Seen count (TestEnds unit interval duration))) :
    Exact unit interval duration count last := by
  rw [once_per_period_iff units shorter] at once
  have aligned : ∀ tick ≤ last, count tick = count 0 → Starting unit interval tick := by
    intro tick reached same
    apply (once tick reached).1.mp
    rw [Seen, same, Nat.sub_self]
    exact ⟨Nat.le_refl _, by simp [Starting]⟩
  refine ⟨?_, aligned, ?_⟩
  · rintro tick reached (starting | ending)
    · exact ((once tick reached).1.mpr starting).1
    · exact ((once tick reached).2.mpr ending).1
  · intro tick reached double
    by_contra longer
    rw [Nat.not_le] at longer
    have spurious := test_ends_double units positive longer
    have elapsed : count tick - count 0 = unit * (2 * duration) := by omega
    have seen : Seen count (TestEnds unit interval duration) tick := by
      rw [Seen, elapsed]
      exact ⟨by omega, spurious.1⟩
    -- The end is taken at twice the duration after a period started.
    obtain ⟨origin, place, counted⟩ := counted_from restarting seen.1
    have starting := aligned origin (by omega) (counted 0 (Nat.zero_le _))
    have ending := (once tick reached).2.mp seen
    rw [place, elapsed, ending_shift units starting] at ending
    exact spurious.2 ending

theorem test_once_per_period_iff (units : 0 < unit) (positive : 0 < duration)
    (shorter : duration < interval) (restarting : Restarting count) :
    OncePerPeriod unit interval duration last (Seen count (Starting unit interval))
        (Seen count (TestEnds unit interval duration)) ↔
      Exact unit interval duration count last := by
  refine ⟨exact_of_once units positive shorter restarting, ?_⟩
  intro exact
  rw [once_per_period_iff units shorter]
  intro tick reached
  by_cases counted : count 0 ≤ count tick
  · obtain ⟨origin, place, steps⟩ := counted_from restarting counted
    have starting := exact.aligned origin (by omega) (steps 0 (Nat.zero_le _))
    have single : unit * (2 * duration) ≤ count tick - count 0 → interval ≤ 2 * duration := by
      intro double
      exact exact.single (origin + unit * (2 * duration)) (by omega) (steps _ double)
    have starts := starting_shift units starting (count tick - count 0)
    have ends := @ending_shift unit interval duration origin units starting (count tick - count 0)
    rw [← place] at starts ends
    rw [starts, ends, ← test_ends_iff positive shorter single]
    exact ⟨and_iff_right counted, and_iff_right counted⟩
  · constructor
    · exact iff_of_false (fun seen => counted seen.1)
        fun starting => counted (exact.counted tick reached (.inl starting))
    · exact iff_of_false (fun seen => counted seen.1)
        fun ending => counted (exact.counted tick reached (.inr ending))

end Counter

section Modulus

variable {unit modulus interval duration base last : Nat} {count : Nat → Nat}

theorem succ_mod {value : Nat} (positive : 0 < modulus) :
    (value + 1) % modulus =
      if value % modulus + 1 = modulus then 0 else value % modulus + 1 := by
  have below := Nat.mod_lt value positive
  rw [← Nat.mod_add_mod]
  split
  · rename_i whole
    rw [whole, Nat.mod_self]
  · rename_i part
    exact Nat.mod_eq_of_lt (by omega)

theorem restarting_mod (positive : 0 < modulus) (restarting : Restarting count) :
    Restarting fun tick => count tick % modulus := by
  intro tick
  dsimp only
  rcases restarting tick with next | again
  · rw [next, succ_mod positive]
    split
    · exact .inr rfl
    · exact .inl rfl
  · rw [again, Nat.zero_mod]
    exact .inr rfl

/-- Before the counter wraps it shows no less than at the base, and less from then on until
a whole turn is over. -/
theorem exact_modulus_iff (uneven : ¬unit ∣ modulus) (low : base < modulus)
    (shows : ∀ tick ≤ last, count tick = (base + tick) % modulus) :
    Exact unit interval duration count last ↔
      Unwrapped unit modulus interval duration base last := by
  have first : count 0 = base := by
    rw [shows 0 (Nat.zero_le last), Nat.add_zero, Nat.mod_eq_of_lt low]
  have before : ∀ tick ≤ last, base + tick < modulus → count tick = base + tick := by
    intro tick reached fits
    rw [shows tick reached, Nat.mod_eq_of_lt fits]
  have wrapped : ∀ tick ≤ last, tick < modulus → modulus ≤ base + tick →
      count tick < base := by
    intro tick reached turn wraps
    rw [shows tick reached, Nat.mod_eq_sub_mod wraps, Nat.mod_eq_of_lt (by omega)]
    omega
  constructor
  · intro exact
    have within : last < modulus := by
      by_contra turned
      rw [Nat.not_lt] at turned
      have again : count modulus = count 0 := by
        rw [first, shows modulus turned, Nat.add_mod_right, Nat.mod_eq_of_lt low]
      exact uneven (Nat.dvd_of_mod_eq_zero (exact.aligned modulus turned again).1)
    refine ⟨within, ?_, ?_⟩
    · intro tick reached due
      by_contra wraps
      have shown := exact.counted tick reached due
      have less := wrapped tick reached (by omega) (Nat.le_of_not_lt wraps)
      omega
    · by_contra spurious
      have double := exact.single (unit * (2 * duration)) (by omega) (by
        rw [first]
        exact before _ (by omega) (by omega))
      omega
  · intro unwrapped
    have within := unwrapped.within
    have single := unwrapped.single
    refine ⟨?_, ?_, ?_⟩
    · intro tick reached due
      rw [first, before tick reached (unwrapped.counted tick reached due)]
      exact Nat.le_add_right base tick
    · intro tick reached same
      by_cases fits : base + tick < modulus
      · have none : tick = 0 := by
          have shown := before tick reached fits
          omega
        rw [none]
        simp [Starting]
      · have less := wrapped tick reached (by omega) (Nat.le_of_not_lt fits)
        omega
    · intro tick reached double
      by_cases fits : base + tick < modulus
      · have shown := before tick reached fits
        have here : tick = unit * (2 * duration) := by omega
        omega
      · have less := wrapped tick reached (by omega) (Nat.le_of_not_lt fits)
        omega

end Modulus

end IotgoFirmware.Library.PeriodicEvents
