import IotgoFirmware.Timers.TimerCalendar

/-!
# The timer objects of `iotgo_timer.c`

One turn of `timerMonitorCallback` for an object of the list, and the counting callback
`durationStartEndTimerCallback` that it was meant to start.
-/

namespace IotgoFirmware.Timers.TimerMonitor

open IotgoFirmware.Library.CIntegers
open IotgoFirmware.Library.GregorianClock (Instant Valid daysInMonth daysBeforeMonth
  daysOfYear secondsSince secondsOfMonth daysSince)
open IotgoFirmware.Timers.TimerClock
open IotgoFirmware.Timers.TimerCalendar

set_option autoImplicit false

structure IoTgoMinuteDiff where
  minute : Int
  second : Int
deriving DecidableEq

/-- The days of the years from `known` on before `year`. -/
def daysOfYears (unset : Int) (known year : Nat) : UInt32 :=
  ((List.range (year - known)).map Nat.cast).foldl
    (fun sum index => sum + daysBefore unset (known + index) 13) 0

/-- Before the known year only the day of the month counts. -/
def minuteDiffFromKnownYear (unset : Int) (time : IoTgoGMTTime) : IoTgoMinuteDiff :=
  let year := time.year.toNat
  let months := daysBefore unset year time.month.toNat
  let sum :=
    if 2015 < year then daysOfYears unset 2015 year + months
    else if year = 2015 then months
    else 0
  let days := sum + UInt32.ofInt (time.day.toNat - 1)
  { minute := sint32 (days * 24 * 60 + time.hour.toUInt32 * 60 + time.minute.toUInt32).toNat
    second := sint8 time.second.toNat }

/-- The product of the minutes keeps its low bits, as on the target. -/
def secondsOfDiff (diff : IoTgoMinuteDiff) : UInt32 :=
  UInt32.ofInt (diff.minute * 60 + diff.second)

def minuteDiff (unset : Int) (time1 time2 : IoTgoGMTTime) : IoTgoMinuteDiff :=
  let val1 := secondsOfDiff (minuteDiffFromKnownYear unset time1)
  let val2 := secondsOfDiff (minuteDiffFromKnownYear unset time2)
  if val1 < val2 then ⟨-1, -1⟩
  else
    { minute := sint32 ((val1 - val2) / 60).toNat
      second := sint8 ((val1 - val2) % 60).toNat }

inductive IoTgoTimerType where
  | invalid
  | gmt
  | cron
  | interval
  | intervalDuration
  | intervalDurationStartEnd
deriving DecidableEq

/-- Of the union `timing` an object reads the member of its type. The callbacks are those
that the object was added with, which are not null. -/
structure IoTgoTimeObject where
  type : IoTgoTimerType
  gmt : IoTgoGMTTime
  cron : IoTgoCron
  timeInterval : UInt32
  timeDuration : UInt32
  ptr : Option (List UInt8)
  pStartDo : Option (List UInt8)
  pEndDo : Option (List UInt8)
  enabled : Bool
  used : Bool
  secondCount : UInt8
  minuteCount : UInt32
  diffTimer : IoTgoMinuteDiff

/-- A call of one of the callbacks, with the pointer it is given. -/
inductive Call where
  | tsch (ptr : Option (List UInt8))
  | startDo (ptr : Option (List UInt8))
  | endDo (ptr : Option (List UInt8))
deriving DecidableEq

/-- What `deleteOneTimeObject` leaves of an object. -/
def deletedTimeObject : IoTgoTimeObject where
  type := .invalid
  gmt := ⟨0, 0, 0, 0, 0, 0⟩
  cron := ⟨fun _ => 0, 0, 0⟩
  timeInterval := 0
  timeDuration := 0
  ptr := none
  pStartDo := none
  pEndDo := none
  enabled := false
  used := false
  secondCount := 0
  minuteCount := 0
  diffTimer := ⟨0, 0⟩

/-- `none` where the minutes are divided by zero. -/
def diffCompare (diff : IoTgoMinuteDiff) (timeInterval timeDuration : UInt32) :
    Option Duration :=
  let minute := UInt32.ofInt diff.minute
  if timeInterval = 0 then none
  else if minute % timeInterval = 0 ∧ diff.second = 0 then some .begins
  else if timeDuration = 0 then none
  else if minute % timeInterval % timeDuration = 0 ∧ diff.second = 0 then some .ends
  else some .neither

/-- One turn of the loop in `timerMonitorCallback`: the object that is left, and the
callbacks that are called. -/
def monitorObject (unset : Int) (now : IoTgoGMTTime) (object : IoTgoTimeObject) :
    Option (IoTgoTimeObject × List Call) :=
  if object.used = false ∨ object.enabled = false then some (object, [])
  else
    let diff := minuteDiff unset now object.gmt
    let left := { object with diffTimer := diff }
    match object.type with
    | .gmt =>
        if gmtCompareWithNow now object.gmt then
          some (deletedTimeObject, [.tsch object.ptr])
        else some (object, [])
    | .cron =>
        if cronCompareWitchNow now object.cron then some (object, [.tsch object.ptr])
        else some (object, [])
    | .interval =>
        if object.timeInterval = 0 then none
        else if UInt32.ofInt diff.minute % object.timeInterval = 0 ∧ diff.second = 0 then
          some (left, [.tsch object.ptr])
        else some (left, [])
    | .intervalDuration =>
        match diffCompare diff object.timeInterval object.timeDuration with
        | none => none
        | some .begins => some (left, [.tsch object.ptr])
        -- The end of the duration is found, but nothing is done.
        | some .ends => some (left, [])
        | some .neither => some (left, [])
    | .intervalDurationStartEnd =>
        match diffCompare diff object.timeInterval object.timeDuration with
        | none => none
        | some .begins => some (left, [.startDo object.pStartDo])
        | some .ends => some (left, [.endDo object.pEndDo])
        | some .neither => some (left, [])
    | .invalid => some (object, [])

def durationStartEndTimerCallback (object : IoTgoTimeObject) : IoTgoTimeObject × List Call :=
  let second := object.secondCount + 1
  if second = 60 then
    let minute := object.minuteCount + 1
    if minute = object.timeDuration then
      ({ object with secondCount := 0, minuteCount := minute }, [.endDo object.pEndDo])
    else if minute = object.timeInterval then
      ({ object with secondCount := 0, minuteCount := 0 }, [.startDo object.pStartDo])
    else ({ object with secondCount := 0, minuteCount := minute }, [])
  else ({ object with secondCount := second }, [])

section Seconds

variable {instant : Instant}

theorem of_int_sint32 (value : UInt32) : UInt32.ofInt (sint32 value.toNat) = value := by
  apply UInt32.toNat.inj
  have width := value.toNat_lt
  simp only [UInt32.ofInt, UInt32.toNat_ofNat', sint32]
  omega

theorem of_int_sint8 {value : Nat} (small : value < 128) :
    UInt32.ofInt (sint8 (UInt8.ofNat value).toNat) = UInt32.ofNat value := by
  have byte : (UInt8.ofNat value).toNat = value := byte_to_nat (by omega)
  have same : sint8 value = (value : Int) := by
    unfold sint8
    omega
  rw [byte, same, of_int_natCast]

theorem days_of_years (unset : Int) (known year : Nat) :
    daysOfYears unset known year =
      UInt32.ofNat (IotgoFirmware.Library.GregorianClock.daysBeforeYear known year) :=
  days_of_years_sum unset known year

/-- The seconds of an instant that `minuteDiff` compares. -/
def monitorSeconds (instant : Instant) : Nat :=
  if 2015 ≤ instant.year then secondsSince 2015 instant else secondsOfMonth instant

theorem minute_diff_from_known_year (valid : Valid instant) (small : instant.year < 65536)
    (unset : Int) :
    secondsOfDiff (minuteDiffFromKnownYear unset (shown instant)) =
      UInt32.ofNat (monitorSeconds instant) := by
  have last : instant.month ≤ 13 := valid.month.2.trans (by decide)
  have second := valid.second
  have seconds : UInt32.ofInt (sint8 (shown instant).second.toNat) =
      UInt32.ofNat instant.second := of_int_sint8 (by omega)
  have sixty : UInt32.ofInt 60 = 60 := rfl
  rw [secondsOfDiff, minuteDiffFromKnownYear, shown_year small, shown_month valid,
    shown_hour valid, shown_minute valid, day_before valid, UInt32.ofInt_add, UInt32.ofInt_mul,
    of_int_sint32, seconds, sixty, monitorSeconds]
  by_cases early : 2015 ≤ instant.year
  · rw [if_pos early, secondsSince, ← seconds_of_days, daysSince, UInt32.ofNat_add,
      UInt32.ofNat_add, days_before last]
    by_cases later : 2015 < instant.year
    · rw [if_pos later, days_of_years]
    · have first : instant.year = 2015 := by omega
      have years : UInt32.ofNat
          (IotgoFirmware.Library.GregorianClock.daysBeforeYear 2015 2015) = 0 := rfl
      rw [if_neg later, if_pos first, first, years, UInt32.zero_add]
  · have later : ¬2015 < instant.year := by omega
    have first : ¬instant.year = 2015 := by omega
    rw [if_neg early, if_neg later, if_neg first, UInt32.zero_add, secondsOfMonth,
      ← seconds_of_days]

end Seconds

end IotgoFirmware.Timers.TimerMonitor
