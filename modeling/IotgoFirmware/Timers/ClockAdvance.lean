import IotgoFirmware.Timers.TimerSeconds
import IotgoFirmware.Timers.TimerTicks

/-!
# The clock goes on

`localRTC` carries the seconds of a call into the minutes, hours, days, months and years.
For up to 196 of them the carries are those of the calendar.
-/

namespace IotgoFirmware.Timers.ClockAdvance

open IotgoFirmware.Library.CIntegers
open IotgoFirmware.Library.GregorianClock (Instant Valid secondsSince daysSince after
  daysInMonth daysBeforeMonth daysOfYear daysBeforeYear valid_after start_year
  seconds_since_after days_before_month_succ days_before_year_succ days_before_month_one
  days_in_month_bounds after_year_le)
open IotgoFirmware.Library.GregorianDays
open IotgoFirmware.Timers.TimerClock
open IotgoFirmware.Timers.TimerCalendar
open IotgoFirmware.Timers.TimerSeconds
open IotgoFirmware.Timers.TimerTicks (RtcState localRTC startClock passDays passHours passMinutes
  passSeconds rtcDivider start_clock_micro start_clock_time)

set_option autoImplicit false

section Carries

variable {instant : Instant}

theorem pass_day (valid : Valid instant) (small : instant.year < 65535) (unset : Int) :
    passDays unset (shown instant) 1 = shown (after instant 86400) := by
  have month := valid.month
  have day := valid.day
  have days := (days_in_month_bounds instant.year instant.month).2
  have sum : (shown instant).day + 1 = UInt8.ofNat (instant.day + 1) := (UInt8.ofNat_add _ _).symm
  have later : (shown instant).month + 1 = UInt8.ofNat (instant.month + 1) :=
    (UInt8.ofNat_add _ _).symm
  have sumNat : (UInt8.ofNat (instant.day + 1)).toNat = instant.day + 1 := byte_to_nat (by omega)
  have signed : sint8 instant.month = (instant.month : Int) := by
    unfold sint8
    omega
  have beyond : (daysOfMonth unset instant.year instant.month < (instant.day + 1 : Nat)) ↔
      daysInMonth instant.year instant.month < instant.day + 1 := by
    rw [days_of_month month.1 month.2, Int.ofNat_lt]
  unfold passDays
  dsimp only
  rw [sum, later, sumNat, shown_year (by omega), shown_month valid, signed]
  by_cases inside : instant.day < daysInMonth instant.year instant.month
  · rw [if_neg (mt beyond.1 (Nat.not_lt.2 inside)), after_next_day valid inside]
    rfl
  · have last : instant.day = daysInMonth instant.year instant.month := by omega
    rw [if_pos (beyond.2 (by omega))]
    by_cases december : instant.month = 12
    · have past : 12 < UInt8.ofNat (instant.month + 1) := by
        rw [december]
        decide
      have year : (shown instant).year + 1 = UInt16.ofNat (instant.year + 1) :=
        (UInt16.ofNat_add _ _).symm
      rw [if_pos past, after_next_year valid last december, year]
      rfl
    · have more : ¬12 < UInt8.ofNat (instant.month + 1) := by
        rw [UInt8.lt_iff_toNat_lt, byte_to_nat (by omega)]
        change ¬12 < instant.month + 1
        omega
      rw [if_neg more, after_next_month valid last (by omega)]
      rfl

theorem pass_hours (valid : Valid instant) (small : instant.year < 65535) (unset : Int)
    {hours : Nat} (few : hours ≤ 1) :
    passHours unset (shown instant) (UInt8.ofNat hours) = shown (after instant (hours * 3600)) := by
  have hour := valid.hour
  have sum : (shown instant).hour + UInt8.ofNat hours = UInt8.ofNat (instant.hour + hours) :=
    (UInt8.ofNat_add _ _).symm
  unfold passHours
  dsimp only
  rw [sum]
  by_cases inside : instant.hour + hours < 24
  · have less : ¬24 ≤ UInt8.ofNat (instant.hour + hours) := by
      rw [UInt8.le_iff_toNat_le, byte_to_nat (by omega)]
      exact Nat.not_le.2 inside
    have valid' : Valid { instant with hour := instant.hour + hours } :=
      ⟨valid.month, valid.day, inside, valid.minute, valid.second⟩
    have same : after instant (hours * 3600) = { instant with hour := instant.hour + hours } := by
      apply after_eq valid valid' (Nat.le_refl _)
      simp only [secondsSince, daysSince]
      omega
    rw [if_neg less, same]
    rfl
  · have whole : instant.hour = 23 ∧ hours = 1 := by omega
    obtain ⟨last, rfl⟩ := whole
    have valid' : Valid { instant with hour := 0 } :=
      ⟨valid.month, valid.day, Nat.succ_pos 23, valid.minute, valid.second⟩
    have same : after instant (1 * 3600) = after { instant with hour := 0 } 86400 := by
      apply after_eq_after valid valid' (Nat.le_refl _)
      simp only [secondsSince, daysSince, last]
      omega
    have full : 24 ≤ UInt8.ofNat (23 + 1) := by decide
    have zero : UInt8.ofNat (23 + 1) % 24 = 0 := by decide
    have day : UInt8.ofNat (23 + 1) / 24 = 1 := by decide
    rw [last, if_pos full, zero, day, same, ← pass_day valid' small unset]
    rfl

theorem pass_minutes (valid : Valid instant) (small : instant.year < 65535) (unset : Int)
    {minutes : Nat} (few : minutes ≤ 60) :
    passMinutes unset (shown instant) (UInt8.ofNat minutes) =
      shown (after instant (minutes * 60)) := by
  have minute := valid.minute
  have sum : (shown instant).minute + UInt8.ofNat minutes =
      UInt8.ofNat (instant.minute + minutes) := (UInt8.ofNat_add _ _).symm
  have number : (UInt8.ofNat (instant.minute + minutes)).toNat = instant.minute + minutes :=
    byte_to_nat (by omega)
  unfold passMinutes
  dsimp only
  rw [sum]
  by_cases inside : instant.minute + minutes < 60
  · have less : ¬60 ≤ UInt8.ofNat (instant.minute + minutes) := by
      rw [UInt8.le_iff_toNat_le, number]
      exact Nat.not_le.2 inside
    have valid' : Valid { instant with minute := instant.minute + minutes } :=
      ⟨valid.month, valid.day, valid.hour, inside, valid.second⟩
    have same : after instant (minutes * 60) =
        { instant with minute := instant.minute + minutes } := by
      apply after_eq valid valid' (Nat.le_refl _)
      simp only [secondsSince, daysSince]
      omega
    rw [if_neg less, same]
    rfl
  · have more : 60 ≤ UInt8.ofNat (instant.minute + minutes) := by
      rw [UInt8.le_iff_toNat_le, number]
      exact Nat.le_of_not_lt inside
    have hours : UInt8.ofNat (instant.minute + minutes) / 60 = UInt8.ofNat 1 := by
      rw [← UInt8.toNat_inj, UInt8.toNat_div, number]
      change (instant.minute + minutes) / 60 = 1
      omega
    have rest : UInt8.ofNat (instant.minute + minutes) % 60 =
        UInt8.ofNat (instant.minute + minutes - 60) := by
      rw [← UInt8.toNat_inj, UInt8.toNat_mod, number, byte_to_nat (by omega)]
      change (instant.minute + minutes) % 60 = _
      omega
    have valid' : Valid { instant with minute := instant.minute + minutes - 60 } :=
      ⟨valid.month, valid.day, valid.hour, by dsimp only; omega, valid.second⟩
    have same : after instant (minutes * 60) =
        after { instant with minute := instant.minute + minutes - 60 } (1 * 3600) := by
      apply after_eq_after valid valid' (Nat.le_refl _)
      simp only [secondsSince, daysSince]
      omega
    rw [if_pos more, hours, rest, same, ← pass_hours valid' small unset (Nat.le_refl 1)]
    rfl

/-- The seconds of the clock are a byte, so that 196 more always fit. -/
theorem pass_seconds (valid : Valid instant) (small : instant.year < 65535) (unset : Int)
    {seconds : Nat} (few : seconds ≤ 196) :
    passSeconds unset (shown instant) (UInt32.ofNat seconds) = shown (after instant seconds) := by
  have second := valid.second
  have narrow : (UInt32.ofNat seconds).toUInt8 = UInt8.ofNat seconds := by
    rw [← UInt8.toNat_inj, UInt32.toNat_toUInt8, UInt32.toNat_ofNat', UInt8.toNat_ofNat']
    omega
  have sum : (shown instant).second + UInt8.ofNat seconds =
      UInt8.ofNat (instant.second + seconds) := (UInt8.ofNat_add _ _).symm
  have number : (UInt8.ofNat (instant.second + seconds)).toNat = instant.second + seconds :=
    byte_to_nat (by omega)
  unfold passSeconds
  dsimp only
  rw [narrow, sum]
  by_cases inside : instant.second + seconds < 60
  · have less : ¬60 ≤ UInt8.ofNat (instant.second + seconds) := by
      rw [UInt8.le_iff_toNat_le, number]
      exact Nat.not_le.2 inside
    have valid' : Valid { instant with second := instant.second + seconds } :=
      ⟨valid.month, valid.day, valid.hour, valid.minute, inside⟩
    have same : after instant seconds = { instant with second := instant.second + seconds } := by
      apply after_eq valid valid' (Nat.le_refl _)
      simp only [secondsSince, daysSince]
      omega
    rw [if_neg less, same]
    rfl
  · have more : 60 ≤ UInt8.ofNat (instant.second + seconds) := by
      rw [UInt8.le_iff_toNat_le, number]
      exact Nat.le_of_not_lt inside
    have minutes : UInt8.ofNat (instant.second + seconds) / 60 =
        UInt8.ofNat ((instant.second + seconds) / 60) := by
      rw [← UInt8.toNat_inj, UInt8.toNat_div, number, byte_to_nat (by omega)]
      rfl
    have rest : UInt8.ofNat (instant.second + seconds) % 60 =
        UInt8.ofNat ((instant.second + seconds) % 60) := by
      rw [← UInt8.toNat_inj, UInt8.toNat_mod, number, byte_to_nat (by omega)]
      rfl
    have valid' : Valid { instant with second := (instant.second + seconds) % 60 } :=
      ⟨valid.month, valid.day, valid.hour, valid.minute, Nat.mod_lt _ (Nat.succ_pos 59)⟩
    have same : after instant seconds =
        after { instant with second := (instant.second + seconds) % 60 }
          ((instant.second + seconds) / 60 * 60) := by
      apply after_eq_after valid valid' (Nat.le_refl _)
      simp only [secondsSince, daysSince]
      omega
    rw [if_pos more, minutes, rest, same, ← pass_minutes valid' small unset (by omega)]
    rfl

end Carries

section Updates

variable {rtc : RtcState} {elapsed : UInt32}

theorem local_rtc_micro (running : (startClock rtc).started = true)
    (room : rtc.micro.toNat + elapsed.toNat < 4294967296) (unset : Int) :
    (localRTC unset rtc elapsed).micro.toNat = (rtc.micro.toNat + elapsed.toNat) % 1000000 := by
  have sum : (rtc.micro + elapsed).toNat = rtc.micro.toNat + elapsed.toNat := by
    rw [UInt32.toNat_add]
    exact Nat.mod_eq_of_lt room
  unfold localRTC
  dsimp only
  rw [if_pos running, start_clock_micro]
  by_cases whole : rtcDivider ≤ rtc.micro + elapsed
  · rw [if_pos whole, UInt32.toNat_mod, sum]
    rfl
  · rw [if_neg whole, sum]
    rw [UInt32.le_iff_toNat_le, sum] at whole
    exact (Nat.mod_eq_of_lt (Nat.lt_of_not_le whole)).symm

theorem local_rtc_shown {instant : Instant} (valid : Valid instant) (small : instant.year < 65535)
    (shows : rtc.currentTime = shown instant) (running : (startClock rtc).started = true)
    (few : (rtc.micro.toNat + elapsed.toNat) / 1000000 ≤ 196) (unset : Int) :
    (localRTC unset rtc elapsed).currentTime =
      shown (after instant ((rtc.micro.toNat + elapsed.toNat) / 1000000)) := by
  have sum : (rtc.micro + elapsed).toNat = rtc.micro.toNat + elapsed.toNat := by
    rw [UInt32.toNat_add]
    omega
  unfold localRTC
  dsimp only
  rw [if_pos running, start_clock_micro, start_clock_time, shows]
  by_cases whole : rtcDivider ≤ rtc.micro + elapsed
  · have seconds : (rtc.micro + elapsed) / rtcDivider =
        UInt32.ofNat ((rtc.micro.toNat + elapsed.toNat) / 1000000) := by
      rw [← UInt32.toNat_inj, UInt32.toNat_div, sum, UInt32.toNat_ofNat']
      change _ / 1000000 = _
      omega
    rw [if_pos whole, seconds]
    exact pass_seconds valid small unset few
  · rw [UInt32.le_iff_toNat_le, sum] at whole
    have none : (rtc.micro.toNat + elapsed.toNat) / 1000000 = 0 :=
      Nat.div_eq_of_lt (Nat.lt_of_not_le whole)
    rw [if_neg (by rw [UInt32.le_iff_toNat_le, sum]; exact whole), none]
    rfl

/-- A call of the started clock that measures up to 196 whole seconds. -/
theorem clock_advances (unset : Int) (start : ClockInstant)
    (shows : rtc.currentTime = shown start.instant) (micro : rtc.micro.toNat < 1000000)
    (running : (startClock rtc).started = true)
    (few : (rtc.micro.toNat + elapsed.toNat) / 1000000 ≤ 196) :
    Valid (after start.instant ((rtc.micro.toNat + elapsed.toNat) / 1000000)) ∧
      (localRTC unset rtc elapsed).currentTime =
        shown (after start.instant ((rtc.micro.toNat + elapsed.toNat) / 1000000)) ∧
      (compareTimeToKnowDate unset (localRTC unset rtc elapsed).currentTime).toNat =
        (compareTimeToKnowDate unset rtc.currentTime).toNat +
          (rtc.micro.toNat + elapsed.toNat) / 1000000 ∧
      (localRTC unset rtc elapsed).micro.toNat = (rtc.micro.toNat + elapsed.toNat) % 1000000 := by
  have last := start.last
  have fit := start.fit
  have count := seconds_since_after start.valid start.first
    ((rtc.micro.toNat + elapsed.toNat) / 1000000)
  have later : Valid (after start.instant ((rtc.micro.toNat + elapsed.toNat) / 1000000)) :=
    valid_after start.valid _
  have shows' := local_rtc_shown start.valid (by omega) shows running few unset
  have year := start_year start.instant ((rtc.micro.toNat + elapsed.toNat) / 1000000)
  have year' := after_year_le start.instant ((rtc.micro.toNat + elapsed.toNat) / 1000000)
  refine ⟨later, shows', ?_, local_rtc_micro running (by omega) unset⟩
  rw [shows', shows, compare_time_of_clock start,
    compare_time_exact later (start.first.trans year) (by omega) (by omega), count]

def leapEve : ClockInstant where
  instant := ⟨2016, 2, 28, 23, 59, 59⟩
  valid := ⟨by decide, by decide, by decide, by decide, by decide⟩
  first := Nat.le_refl 2016
  last := by decide

theorem clock_enters_leap_day :
    (localRTC 0 ⟨0, true, 500000, shown leapEve.instant⟩ 1500000).currentTime =
        shown (after leapEve.instant 2) ∧
      after leapEve.instant 2 = ⟨2016, 2, 29, 0, 0, 1⟩ :=
  ⟨(@clock_advances ⟨0, true, 500000, shown leapEve.instant⟩ 1500000 0 leapEve rfl (by decide) rfl
    (by decide)).2.1, by decide⟩

end Updates

end IotgoFirmware.Timers.ClockAdvance
