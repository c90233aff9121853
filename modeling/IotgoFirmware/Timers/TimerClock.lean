import IotgoFirmware.Library.CIntegers
import IotgoFirmware.Timers.TimerLayout

/-!
# When a timer is due

The comparisons of `iotgo_loctimer.c` with the time of the clock, and what one second
of `timerDealTime` does with a timer.
-/

namespace IotgoFirmware.Timers.TimerClock

open IotgoFirmware.Library.CIntegers
open IotgoFirmware.Timers.TimerLayout

set_option autoImplicit false

structure IoTgoGMTTime where
  year : UInt16
  month : UInt8
  day : UInt8
  hour : UInt8
  minute : UInt8
  second : UInt8
deriving DecidableEq

structure IoTgoCron where
  weeks : Fin 7 → UInt8
  hour : UInt8
  minute : UInt8

/-- `timing.gmt`. -/
def gmtOf (timer : IotgoTimer) : IoTgoGMTTime where
  year := UInt16.ofNat ((timer.timing 0).toNat + 256 * (timer.timing 1).toNat)
  month := timer.timing 2
  day := timer.timing 3
  hour := timer.timing 4
  minute := timer.timing 5
  second := timer.timing 6

/-- `timing.cron`. -/
def cronOf (timer : IotgoTimer) : IoTgoCron where
  weeks day := timer.timing ⟨day, Nat.lt_trans day.isLt (by decide)⟩
  hour := timer.timing 7
  minute := timer.timing 8

def getWeek (y m d : Int) : Int :=
  let year := if m < 3 then y - 1 else y
  let month := if m < 3 then sint8 (m + 12) else m
  let c := sint8 (year.tdiv 100)
  let year := year.tmod 100
  let w := year + year.tdiv 4 + c.tdiv 4 - 2 * c + ((26 * (month + 1)).tdiv 10 + d - 1)
  (w.tmod 7 + 7).tmod 7

theorem get_week_range (y m d : Int) : 0 ≤ getWeek y m d ∧ getWeek y m d < 7 := by
  have range : ∀ w : Int, 0 ≤ (w.tmod 7 + 7).tmod 7 ∧ (w.tmod 7 + 7).tmod 7 < 7 := by
    intro w
    have above : -7 < w.tmod 7 := Int.lt_tmod_of_pos w (by decide)
    exact ⟨Int.tmod_nonneg 7 (by omega), Int.tmod_lt_of_pos _ (by decide)⟩
  exact range _

def isLeapYear (year : Int) : Bool :=
  if year < 0 then false
  else (year.tmod 4 = 0 ∧ year.tmod 100 ≠ 0) ∨ year.tmod 400 = 0

/-- `unset` is what the local variable holds that an invalid month does not set. -/
def daysOfMonth (unset : Int) (year month : Int) : Int :=
  if month ∈ [1, 3, 5, 7, 8, 10, 12] then 31
  else if month ∈ [4, 6, 9, 11] then 30
  else if month = 2 then if isLeapYear year then 29 else 28
  else unset

def gmtCompareWithNow (now gmt : IoTgoGMTTime) : Bool :=
  gmt.year = now.year ∧ gmt.month = now.month ∧ gmt.day = now.day ∧ gmt.hour = now.hour ∧
    gmt.minute = now.minute ∧ now.second = 0

def cronCompareWitchNow (now : IoTgoGMTTime) (cron : IoTgoCron) : Bool :=
  let week := getWeek now.year.toNat (sint8 now.month.toNat) (sint8 now.day.toNat)
  cron.weeks (Fin.ofNat 7 week.toNat) = 1 ∧ (cron.hour = now.hour ∨ cron.hour = 24) ∧
    cron.minute = now.minute ∧ now.second = 0

/-- The days of the months before `month`. -/
def daysBefore (unset year : Int) (month : Nat) : UInt32 :=
  (List.range (month - 1)).foldl
    (fun sum index => sum + UInt32.ofInt (daysOfMonth unset year (sint8 (index + 1)))) 0

/-- The days of the years from 2016 on before `year`. -/
def daysBeforeYear (unset : Int) (year : Nat) : UInt32 :=
  (List.range (year - 2016)).foldl
    (fun sum index => sum + daysBefore unset (2016 + index) 13) 0

/-- For 2016 itself the months are those of the year 0, a leap year like 2016. -/
def compareTimeToKnowDate (unset : Int) (gmt : IoTgoGMTTime) : UInt32 :=
  let year := gmt.year.toNat
  if year < 2016 then 0
  else
    let months :=
      if 2016 < year then
        daysBeforeYear unset year + daysBefore unset year gmt.month.toNat
      else daysBefore unset 0 gmt.month.toNat
    let days := months + UInt32.ofInt (gmt.day.toNat - 1)
    (days * 24 * 60 + gmt.hour.toUInt32 * 60 + gmt.minute.toUInt32) * 60 + gmt.second.toUInt32

inductive Duration where
  | begins
  | ends
  | neither
deriving DecidableEq

/-- `none` where the minutes are divided by an interval of zero. -/
def durationCompareWithNow (unset : Int) (now gmt : IoTgoGMTTime)
    (timeInterval timeDuration : UInt32) : Option Duration :=
  let current := compareTimeToKnowDate unset now
  let start := compareTimeToKnowDate unset gmt
  if current = 0 ∨ start = 0 ∨ current < start then some .neither
  else
    let minute := (current - start) / 60
    let second := (current - start) % 60
    if timeInterval ≠ 0 ∧ minute % timeInterval = 0 ∧ second = 0 then some .begins
    else if timeDuration = 0 then some .neither
    else if timeInterval = 0 then none
    else if minute % timeInterval % timeDuration = 0 ∧ second = 0 then some .ends
    else some .neither

/-- What `time_action` holds from a pointer into it on. -/
def actionFrom (timer : IotgoTimer) (offset : Nat) : List UInt8 :=
  (List.ofFn timer.timeAction).drop offset

/-- `time_action.action_do`, `time_action.duration_do.start_do`. -/
def actionDo (timer : IotgoTimer) : List UInt8 :=
  actionFrom timer 0

/-- `time_action.duration_do.end_do`. -/
def endDo (timer : IotgoTimer) : List UInt8 :=
  actionFrom timer 100

def active (timer : IotgoTimer) : Bool :=
  timer.id ≠ 0 ∧ timer.enabled ≠ 0

/-- One pass of the loop in `timerDealTime`: the timer that is left, and the actions
that the callback is called with. -/
def dealTimer (unset : Int) (now : IoTgoGMTTime) (timer : IotgoTimer) :
    Option (IotgoTimer × List (List UInt8)) :=
  if active timer = false then some (timer, [])
  else
    match timer.type with
    | .once =>
        if gmtCompareWithNow now (gmtOf timer) then
          some ({ timer with enabled := 0 }, [actionDo timer])
        else some (timer, [])
    | .repeat =>
        if cronCompareWitchNow now (cronOf timer) then some (timer, [actionDo timer])
        else some (timer, [])
    | .duration =>
        match durationCompareWithNow unset now (gmtOf timer) timer.timeInterval
            timer.timeDuration with
        | none => none
        -- `action_do` and `start_do` lie at the same place, so that either is called.
        | some .begins => some (timer, [actionDo timer])
        | some .ends => some (timer, [endDo timer])
        | some .neither => some (timer, [])
    | .invalid => some (timer, [])

def due (now : IoTgoGMTTime) (timer : IotgoTimer) : Bool :=
  active timer ∧ timer.type = .once ∧ gmtCompareWithNow now (gmtOf timer)

/-- A timer that divides the minutes by an interval of zero. -/
def faults (unset : Int) (now : IoTgoGMTTime) (timer : IotgoTimer) : Bool :=
  active timer ∧ timer.type = .duration ∧
    durationCompareWithNow unset now (gmtOf timer) timer.timeInterval timer.timeDuration = none

/-- A due timer is disabled, every other one stays as it is. -/
def disarmed (now : IoTgoGMTTime) (timer : IotgoTimer) : IotgoTimer :=
  if due now timer then { timer with enabled := 0 } else timer

theorem deal_timer_faults {unset : Int} {now : IoTgoGMTTime} {timer : IotgoTimer} :
    dealTimer unset now timer = none ↔ faults unset now timer = true := by
  unfold dealTimer faults
  by_cases inactive : active timer = false
  · simp [inactive]
  · rw [if_neg inactive]
    rw [Bool.not_eq_false] at inactive
    cases kind : timer.type with
    | once => simp only [reduceCtorEq]; split <;> simp
    | «repeat» => simp only [reduceCtorEq]; split <;> simp
    | invalid => simp
    | duration =>
        simp only [inactive]
        split <;> simp_all

theorem deal_timer_disarms {unset : Int} {now : IoTgoGMTTime} {timer next : IotgoTimer}
    {actions : List (List UInt8)} (dealt : dealTimer unset now timer = some (next, actions)) :
    next = disarmed now timer := by
  unfold dealTimer at dealt
  unfold disarmed due
  by_cases inactive : active timer = false
  · rw [if_pos inactive] at dealt
    cases dealt
    simp [inactive]
  · rw [if_neg inactive] at dealt
    rw [Bool.not_eq_false] at inactive
    cases kind : timer.type with
    | once =>
        simp only [kind] at dealt
        split at dealt
        · rename_i now'
          cases dealt
          simp [inactive, now']
        · rename_i later
          cases dealt
          simp [later]
    | «repeat» =>
        simp only [kind] at dealt
        split at dealt <;> cases dealt <;> simp
    | invalid =>
        simp only [kind] at dealt
        cases dealt
        simp
    | duration =>
        simp only [kind] at dealt
        split at dealt
        · cases dealt
        · cases dealt
          simp
        · cases dealt
          simp
        · cases dealt
          simp

theorem disarmed_eq_iff {now : IoTgoGMTTime} {timer : IotgoTimer} :
    disarmed now timer = timer ↔ due now timer = false := by
  unfold disarmed
  by_cases fires : due now timer = true
  · rw [if_pos fires]
    have enabled : timer.enabled ≠ 0 := by
      simp only [due, active, decide_eq_true_eq] at fires
      exact fires.1.2
    refine iff_of_false ?_ (by simp [fires])
    intro same
    exact enabled (congrArg IotgoTimer.enabled same).symm
  · rw [if_neg fires]
    exact iff_of_true rfl (by simpa using fires)

theorem disarmed_id (now : IoTgoGMTTime) (timer : IotgoTimer) :
    (disarmed now timer).id = timer.id := by
  unfold disarmed
  split <;> rfl

end IotgoFirmware.Timers.TimerClock
