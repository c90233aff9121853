import IotgoFirmware.Library.StepRuns
import IotgoFirmware.Timers.TimerRuns

/-!
# The timers at the ticks of the clock

`localRTC` adds the measured time to the clock, and `timerDealTime` then looks at it. A
timer runs where the clock stands at second 0 of its minute. A tick of less than two
seconds adds 0, 1 or 2 whole ones to the clock: with 2 of them it steps over second 0, and
with none it stays there.
-/

namespace IotgoFirmware.Timers.TimerTicks

open IotgoFirmware.Library.CIntegers
open IotgoFirmware.Library.StepRuns
open IotgoFirmware.Timers.TimerLayout
open IotgoFirmware.Timers.TimerClock
open IotgoFirmware.Timers.TimerRequests
open IotgoFirmware.Timers.TimerRuns

set_option autoImplicit false

section Clock

/-- `count_down`, `started`, `micro` and `current_time`. -/
structure RtcState where
  countDown : UInt32
  started : Bool
  micro : UInt32
  currentTime : IoTgoGMTTime
deriving DecidableEq

def rtcDivider : UInt32 := 1000000

def passDays (unset : Int) (time : IoTgoGMTTime) (days : UInt8) : IoTgoGMTTime :=
  let day := time.day + days
  if daysOfMonth unset time.year.toNat (sint8 time.month.toNat) < day.toNat then
    if 12 < time.month + 1 then
      { time with year := time.year + 1, month := 1, day := 1 }
    else { time with month := time.month + 1, day := 1 }
  else { time with day := day }

def passHours (unset : Int) (time : IoTgoGMTTime) (hours : UInt8) : IoTgoGMTTime :=
  let hour := time.hour + hours
  if 24 ≤ hour then passDays unset { time with hour := hour % 24 } (hour / 24)
  else { time with hour := hour }

def passMinutes (unset : Int) (time : IoTgoGMTTime) (minutes : UInt8) : IoTgoGMTTime :=
  let minute := time.minute + minutes
  if 60 ≤ minute then passHours unset { time with minute := minute % 60 } (minute / 60)
  else { time with minute := minute }

def passSeconds (unset : Int) (time : IoTgoGMTTime) (seconds : UInt32) : IoTgoGMTTime :=
  let second := time.second + seconds.toUInt8
  if 60 ≤ second then passMinutes unset { time with second := second % 60 } (second / 60)
  else { time with second := second }

/-- The first call starts the clock. -/
def startClock (rtc : RtcState) : RtcState :=
  if 0 < rtc.countDown then
    { rtc with
      countDown := rtc.countDown - 1
      started := rtc.started || decide (rtc.countDown - 1 = 0) }
  else rtc

/-- `elapsed` is `rtc_time_diff`; `unset` is what `daysOfMonth` returns of an invalid month. -/
def localRTC (unset : Int) (rtc : RtcState) (elapsed : UInt32) : RtcState :=
  let rtc := startClock rtc
  if rtc.started then
    let micro := rtc.micro + elapsed
    if rtcDivider ≤ micro then
      { rtc with
        micro := micro % rtcDivider
        currentTime := passSeconds unset rtc.currentTime (micro / rtcDivider) }
    else { rtc with micro := micro }
  else rtc

/-- What every call leaves. -/
structure Valid (rtc : RtcState) : Prop where
  micro : rtc.micro.toNat < 1000000
  second : rtc.currentTime.second.toNat < 60

/-- A call that measures less than two seconds. -/
structure Tick where
  elapsed : UInt32
  short : elapsed.toNat < 2000000
  unsetDay : Int
  unset : Int

/-- The whole seconds that a tick adds to the clock. -/
def advance (rtc : RtcState) (tick : Tick) : Nat :=
  if (startClock rtc).started then (rtc.micro.toNat + tick.elapsed.toNat) / 1000000 else 0

/-- The minute of a time, as the time it begins at. -/
def minuteOf (time : IoTgoGMTTime) : IoTgoGMTTime :=
  { time with second := 0 }

@[simp] theorem pass_days_second (unset : Int) (time : IoTgoGMTTime) (days : UInt8) :
    (passDays unset time days).second = time.second := by
  unfold passDays
  dsimp only
  split
  · split <;> rfl
  · rfl

@[simp] theorem pass_hours_second (unset : Int) (time : IoTgoGMTTime) (hours : UInt8) :
    (passHours unset time hours).second = time.second := by
  unfold passHours
  dsimp only
  split
  · rw [pass_days_second]
  · rfl

@[simp] theorem pass_minutes_second (unset : Int) (time : IoTgoGMTTime) (minutes : UInt8) :
    (passMinutes unset time minutes).second = time.second := by
  unfold passMinutes
  dsimp only
  split
  · rw [pass_hours_second]
  · rfl

section Seconds

variable {time : IoTgoGMTTime} {seconds : UInt32}

theorem second_sum (valid : time.second.toNat < 60) (few : seconds.toNat ≤ 2) :
    (time.second + seconds.toUInt8).toNat = time.second.toNat + seconds.toNat := by
  rw [UInt8.toNat_add, UInt32.toNat_toUInt8]
  omega

theorem pass_seconds_stays (unset : Int) (valid : time.second.toNat < 60)
    (few : seconds.toNat ≤ 2) (inside : time.second.toNat + seconds.toNat < 60) :
    minuteOf (passSeconds unset time seconds) = minuteOf time ∧
      (passSeconds unset time seconds).second.toNat = time.second.toNat + seconds.toNat := by
  have sum := second_sum valid few
  have small : ¬ 60 ≤ time.second + seconds.toUInt8 := by
    rw [UInt8.le_iff_toNat_le, sum]
    exact Nat.not_le_of_lt inside
  unfold passSeconds
  dsimp only
  rw [if_neg small]
  exact ⟨rfl, sum⟩

theorem pass_seconds_enters (unset : Int) (valid : time.second.toNat < 60)
    (few : seconds.toNat ≤ 2) (beyond : 60 ≤ time.second.toNat + seconds.toNat) :
    (passSeconds unset time seconds).second.toNat =
      time.second.toNat + seconds.toNat - 60 := by
  have sum := second_sum valid few
  have large : 60 ≤ time.second + seconds.toUInt8 := by
    rw [UInt8.le_iff_toNat_le, sum]
    exact beyond
  unfold passSeconds
  dsimp only
  rw [if_pos large, pass_minutes_second, UInt8.toNat_mod, sum]
  change (time.second.toNat + seconds.toNat) % 60 = _
  omega

end Seconds

variable {rtc : RtcState}

@[simp] theorem start_clock_micro : (startClock rtc).micro = rtc.micro := by
  unfold startClock
  split <;> rfl

@[simp] theorem start_clock_time : (startClock rtc).currentTime = rtc.currentTime := by
  unfold startClock
  split <;> rfl

theorem advance_le (valid : Valid rtc) (tick : Tick) : advance rtc tick ≤ 2 := by
  have micro := valid.micro
  have short := tick.short
  unfold advance
  split <;> omega

/-- The clock goes on by the whole seconds of the tick. -/
theorem local_rtc_time (valid : Valid rtc) (tick : Tick) :
    (localRTC tick.unsetDay rtc tick.elapsed).currentTime =
        passSeconds tick.unsetDay rtc.currentTime (UInt32.ofNat (advance rtc tick)) ∨
      ((localRTC tick.unsetDay rtc tick.elapsed).currentTime = rtc.currentTime ∧
        advance rtc tick = 0) := by
  have micro := valid.micro
  have short := tick.short
  have sum : (rtc.micro + tick.elapsed).toNat = rtc.micro.toNat + tick.elapsed.toNat := by
    rw [UInt32.toNat_add]
    omega
  unfold localRTC advance
  dsimp only
  by_cases running : (startClock rtc).started = true
  · rw [if_pos running, if_pos running, start_clock_micro, start_clock_time]
    by_cases whole : rtcDivider ≤ rtc.micro + tick.elapsed
    · rw [if_pos whole]
      have seconds : (rtc.micro + tick.elapsed) / rtcDivider =
          UInt32.ofNat ((rtc.micro.toNat + tick.elapsed.toNat) / 1000000) := by
        rw [← UInt32.toNat_inj, UInt32.toNat_div, sum, UInt32.toNat_ofNat']
        change _ / 1000000 = _
        omega
      rw [seconds]
      exact .inl rfl
    · rw [if_neg whole]
      have less : rtc.micro.toNat + tick.elapsed.toNat < 1000000 := by
        rw [UInt32.le_iff_toNat_le, sum] at whole
        exact Nat.lt_of_not_le whole
      exact .inr ⟨rfl, Nat.div_eq_of_lt less⟩
  · rw [if_neg running, if_neg running]
    exact .inr ⟨start_clock_time, rfl⟩

theorem local_rtc_stays (valid : Valid rtc) (tick : Tick)
    (inside : rtc.currentTime.second.toNat + advance rtc tick < 60) :
    minuteOf (localRTC tick.unsetDay rtc tick.elapsed).currentTime = minuteOf rtc.currentTime ∧
      (localRTC tick.unsetDay rtc tick.elapsed).currentTime.second.toNat =
        rtc.currentTime.second.toNat + advance rtc tick := by
  have few := advance_le valid tick
  have number : (UInt32.ofNat (advance rtc tick)).toNat = advance rtc tick := by
    rw [UInt32.toNat_ofNat']
    omega
  rcases local_rtc_time valid tick with passed | ⟨same, still⟩
  · rw [passed]
    have stays := pass_seconds_stays tick.unsetDay valid.second (number.trans_le few)
      ((congrArg (rtc.currentTime.second.toNat + ·) number).trans_lt inside)
    rw [number] at stays
    exact stays
  · rw [same, still]
    exact ⟨rfl, rfl⟩

theorem local_rtc_enters (valid : Valid rtc) (tick : Tick)
    (beyond : 60 ≤ rtc.currentTime.second.toNat + advance rtc tick) :
    (localRTC tick.unsetDay rtc tick.elapsed).currentTime.second.toNat =
      rtc.currentTime.second.toNat + advance rtc tick - 60 := by
  have few := advance_le valid tick
  have second := valid.second
  have number : (UInt32.ofNat (advance rtc tick)).toNat = advance rtc tick := by
    rw [UInt32.toNat_ofNat']
    omega
  rcases local_rtc_time valid tick with passed | ⟨same, still⟩
  · rw [passed]
    have enters := pass_seconds_enters tick.unsetDay second (number.trans_le few)
      (beyond.trans_eq (congrArg (rtc.currentTime.second.toNat + ·) number).symm)
    rw [number] at enters
    exact enters
  · omega

theorem valid_local_rtc (valid : Valid rtc) (tick : Tick) :
    Valid (localRTC tick.unsetDay rtc tick.elapsed) := by
  have few := advance_le valid tick
  have second := valid.second
  constructor
  · unfold localRTC
    dsimp only
    split
    · split
      · exact Nat.mod_lt _ (by decide)
      · rename_i less
        exact Nat.lt_of_not_le less
    · rw [start_clock_micro]
      exact valid.micro
  · by_cases inside : rtc.currentTime.second.toNat + advance rtc tick < 60
    · rw [(local_rtc_stays valid tick inside).2]
      exact inside
    · rw [local_rtc_enters valid tick (Nat.le_of_not_lt inside)]
      omega

end Clock

section Calls

/-- The actions that `timerDealTime` runs, with the slots of their timers; up to the pass that
faults, if there is one. -/
def dealCalls (unset : Int) (now : IoTgoGMTTime) (timer : Fin iotgoTimerNum → IotgoTimer) :
    List (Fin iotgoTimerNum) → List (Fin iotgoTimerNum × List UInt8)
  | [] => []
  | slot :: rest =>
      match dealTimer unset now (timer slot) with
      | none => []
      | some (_, called) => called.map (slot, ·) ++ dealCalls unset now timer rest

def callsOf (unset : Int) (now : IoTgoGMTTime) (timer : Fin iotgoTimerNum → IotgoTimer)
    (slot : Fin iotgoTimerNum) : Nat :=
  (dealCalls unset now timer (List.finRange iotgoTimerNum)).countP fun call => call.1 = slot

/-- The minute of a once or repeat timer that is enabled. -/
def comes (now : IoTgoGMTTime) (timer : IotgoTimer) : Bool :=
  active timer &&
    match timer.type with
    | .once => gmtCompareWithNow (minuteOf now) (gmtOf timer)
    | .repeat => cronCompareWitchNow (minuteOf now) (cronOf timer)
    | _ => false

/-- No pass up to that of the slot faults. -/
def reached (unset : Int) (now : IoTgoGMTTime) (timer : Fin iotgoTimerNum → IotgoTimer)
    (slot : Fin iotgoTimerNum) : Prop :=
  ∀ earlier ≤ slot, faults unset now (timer earlier) = false

variable {unset : Int} {now : IoTgoGMTTime} {timer : Fin iotgoTimerNum → IotgoTimer}

/-- These are the actions of `timerDealTime`. -/
theorem deal_calls_actions {slots : List (Fin iotgoTimerNum)} (nodup : slots.Nodup)
    {table after : TimerTable} {actions called : List (List UInt8)}
    (same : ∀ slot ∈ slots, table.timer slot = timer slot)
    (dealt : dealTimers unset now slots table actions = some (after, called)) :
    called = actions ++ (dealCalls unset now timer slots).map Prod.snd := by
  induction slots generalizing table actions with
  | nil =>
      cases dealt
      simp [dealCalls]
  | cons slot rest ih =>
      rw [List.nodup_cons] at nodup
      rw [dealTimers, same slot List.mem_cons_self] at dealt
      rw [dealCalls]
      cases pass : dealTimer unset now (timer slot) with
      | none =>
          rw [pass] at dealt
          cases dealt
      | some result =>
          rw [pass] at dealt
          have others : ∀ later ∈ rest,
              (TimerTable.setTimer table slot result.1).timer later = timer later := by
            intro later member
            rw [← same later (List.mem_cons_of_mem slot member)]
            exact Function.update_of_ne (ne_of_mem_of_not_mem member nodup.1) _ _
          rw [ih nodup.2 others dealt]
          simp

theorem deal_time_actions {table after : TimerTable} {actions : List (List UInt8)}
    (dealt : timerDealTime unset now table = some (after, actions)) :
    actions = (dealCalls unset now table.timer (List.finRange iotgoTimerNum)).map Prod.snd :=
  deal_calls_actions (List.nodup_finRange iotgoTimerNum) (fun _ _ => rfl) dealt

theorem deal_calls_absent {slots : List (Fin iotgoTimerNum)} {slot : Fin iotgoTimerNum}
    (absent : slot ∉ slots) :
    (dealCalls unset now timer slots).countP (fun call => call.1 = slot) = 0 := by
  induction slots with
  | nil => rfl
  | cons first rest ih =>
      rw [List.mem_cons, not_or] at absent
      rw [dealCalls]
      cases dealTimer unset now (timer first) with
      | none => rfl
      | some result =>
          dsimp only
          rw [List.countP_append, ih absent.2, Nat.add_zero, List.countP_eq_zero]
          intro call member
          obtain ⟨action, -, rfl⟩ := List.mem_map.1 member
          simpa using Ne.symm absent.1

def calledOf (unset : Int) (now : IoTgoGMTTime) (timer : IotgoTimer) : List (List UInt8) :=
  ((dealTimer unset now timer).map Prod.snd).getD []

theorem deal_calls_blocked {slots : List (Fin iotgoTimerNum)}
    (sorted : slots.Pairwise (· < ·)) {slot blocked : Fin iotgoTimerNum} (member : slot ∈ slots)
    (before : blocked ≤ slot) (inside : blocked ∈ slots)
    (fault : faults unset now (timer blocked) = true) :
    (dealCalls unset now timer slots).countP (fun call => call.1 = slot) = 0 := by
  induction slots with
  | nil => cases member
  | cons first rest ih =>
      rw [List.pairwise_cons] at sorted
      rw [dealCalls]
      cases pass : dealTimer unset now (timer first) with
      | none => rfl
      | some result =>
          have other : blocked ≠ first := by
            rintro rfl
            rw [deal_timer_faults.2 fault] at pass
            cases pass
          have later : blocked ∈ rest := List.mem_of_ne_of_mem other inside
          have differs : slot ≠ first :=
            ((sorted.1 blocked later).trans_le before).ne'
          have rest' := ih sorted.2 (List.mem_of_ne_of_mem differs member) later
          dsimp only
          rw [List.countP_append, rest', Nat.add_zero, List.countP_eq_zero]
          intro call called
          obtain ⟨action, -, rfl⟩ := List.mem_map.1 called
          simpa using differs.symm

theorem deal_calls_reached {slots : List (Fin iotgoTimerNum)}
    (sorted : slots.Pairwise (· < ·)) {slot : Fin iotgoTimerNum} (member : slot ∈ slots)
    (reach : reached unset now timer slot) :
    (dealCalls unset now timer slots).countP (fun call => call.1 = slot) =
      (calledOf unset now (timer slot)).length := by
  induction slots with
  | nil => cases member
  | cons first rest ih =>
      rw [List.pairwise_cons] at sorted
      rw [dealCalls]
      by_cases same : slot = first
      · subst same
        have absent : slot ∉ rest := fun twice => lt_irrefl slot (sorted.1 slot twice)
        unfold calledOf
        cases pass : dealTimer unset now (timer slot) with
        | none =>
            rw [deal_timer_faults, reach slot le_rfl] at pass
            cases pass
        | some result =>
            dsimp only
            rw [List.countP_append, deal_calls_absent absent, Nat.add_zero, List.countP_map]
            simp [Function.comp_def]
      · have later : slot ∈ rest := List.mem_of_ne_of_mem same member
        have before := (sorted.1 slot later).le
        cases pass : dealTimer unset now (timer first) with
        | none =>
            rw [deal_timer_faults, reach first before] at pass
            cases pass
        | some result =>
            dsimp only
            rw [List.countP_append, ih sorted.2 later, Nat.add_eq_right, List.countP_eq_zero]
            intro call called
            obtain ⟨action, -, rfl⟩ := List.mem_map.1 called
            simpa using Ne.symm same

theorem calls_of_reached {slot : Fin iotgoTimerNum} (reach : reached unset now timer slot) :
    callsOf unset now timer slot = (calledOf unset now (timer slot)).length :=
  deal_calls_reached (List.pairwise_lt_finRange iotgoTimerNum) (List.mem_finRange slot) reach

theorem calls_of_blocked {slot : Fin iotgoTimerNum} (blocked : ¬ reached unset now timer slot) :
    callsOf unset now timer slot = 0 := by
  rw [reached, not_forall] at blocked
  obtain ⟨earlier, blocked⟩ := blocked
  rw [Classical.not_imp, Bool.not_eq_false] at blocked
  obtain ⟨before, fault⟩ := blocked
  exact deal_calls_blocked (List.pairwise_lt_finRange iotgoTimerNum) (List.mem_finRange slot)
    before (List.mem_finRange earlier) fault

theorem gmt_compare_minute (now gmt : IoTgoGMTTime) :
    gmtCompareWithNow now gmt = (gmtCompareWithNow (minuteOf now) gmt && decide (now.second = 0)) := by
  unfold gmtCompareWithNow minuteOf
  simp [Bool.and_assoc, Bool.decide_and]

theorem cron_compare_minute (now : IoTgoGMTTime) (cron : IoTgoCron) :
    cronCompareWitchNow now cron =
      (cronCompareWitchNow (minuteOf now) cron && decide (now.second = 0)) := by
  unfold cronCompareWitchNow minuteOf
  simp [Bool.and_assoc, Bool.decide_and]

/-- A once or repeat timer runs where its minute has come and the clock stands at second 0. -/
theorem called_length {timer : IotgoTimer} (kind : timer.type = .once ∨ timer.type = .repeat) :
    (calledOf unset now timer).length =
      if comes now timer = true ∧ now.second = 0 then 1 else 0 := by
  unfold calledOf dealTimer comes
  by_cases inactive : active timer = false
  · simp [inactive]
  · rw [if_neg inactive]
    rw [Bool.not_eq_false] at inactive
    rcases kind with once | again
    · simp only [once, inactive, gmt_compare_minute now (gmtOf timer)]
      cases gmtCompareWithNow (minuteOf now) (gmtOf timer) <;>
        by_cases begins : now.second = 0 <;> simp [begins]
    · simp only [again, inactive, cron_compare_minute now (cronOf timer)]
      cases cronCompareWitchNow (minuteOf now) (cronOf timer) <;>
        by_cases begins : now.second = 0 <;> simp [begins]

theorem kind_of_comes {timer : IotgoTimer} (due : comes now timer = true) :
    timer.type = .once ∨ timer.type = .repeat := by
  unfold comes at due
  cases kind : timer.type with
  | once => exact .inl rfl
  | «repeat» => exact .inr rfl
  | invalid => simp [kind] at due
  | duration => simp [kind] at due

end Calls

section Runs

/-- A minute that the clock has entered: the time at which it did, the timers as they were then,
and how often each of them has run in it. -/
structure Passage where
  now : IoTgoGMTTime
  timer : Fin iotgoTimerNum → IotgoTimer
  ran : Fin iotgoTimerNum → Nat

/-- `present` is the minute the clock is in, if it has entered it since the start of the run, and
`past` are those before. Where a pass faults, the firmware goes no further. -/
structure Tracked where
  rtc : RtcState
  table : TimerTable
  halted : Bool
  past : List Passage
  present : Option Passage

def Tracked.start (rtc : RtcState) (table : TimerTable) : Tracked where
  rtc := rtc
  table := table
  halted := false
  past := []
  present := none

/-- The tick takes the clock into another minute. -/
def enters (rtc : RtcState) (tick : Tick) : Bool :=
  decide (60 ≤ rtc.currentTime.second.toNat + advance rtc tick)

/-- The minute in which the clock is after a tick. -/
def passageAfter (tracked : Tracked) (tick : Tick) (now : IoTgoGMTTime) : Option Passage :=
  let calls := callsOf tick.unset now tracked.table.timer
  if enters tracked.rtc tick then some ⟨now, tracked.table.timer, calls⟩
  else tracked.present.map fun passage =>
    { passage with ran := fun slot => passage.ran slot + calls slot }

/-- `localRTC` and then `timerDealTime`. -/
def after (tracked : Tracked) (tick : Tick) : Tracked :=
  let rtc := localRTC tick.unsetDay tracked.rtc tick.elapsed
  let dealt := timerDealTime tick.unset rtc.currentTime tracked.table
  { rtc := rtc
    table := (dealt.map Prod.fst).getD tracked.table
    halted := dealt.isNone
    past := if enters tracked.rtc tick then tracked.past ++ tracked.present.toList else tracked.past
    present := passageAfter tracked tick rtc.currentTime }

def Step (tracked : Tracked) (tick : Tick) (next : Tracked) : Prop :=
  tracked.halted = false ∧ next = after tracked tick

/-- Every once or repeat timer whose minute it is has run once. -/
def Exact (passage : Passage) : Prop :=
  ∀ slot, comes passage.now (passage.timer slot) = true → passage.ran slot = 1

structure Lawful (tracked : Tracked) : Prop where
  past : ∀ passage ∈ tracked.past, Exact passage
  present : ∀ passage ∈ tracked.present, Exact passage

/-- Where the clock enters the minute of a timer, it enters it at second 0, and the pass of the
timer is reached; where it stays at second 0 of a minute that it has entered, no enabled repeat
timer has that minute, unless its pass is not reached. -/
structure Within (tracked : Tracked) (tick : Tick) : Prop where
  enters : 60 ≤ tracked.rtc.currentTime.second.toNat + advance tracked.rtc tick →
    ∀ slot, comes (localRTC tick.unsetDay tracked.rtc tick.elapsed).currentTime
        (tracked.table.timer slot) = true →
      tracked.rtc.currentTime.second.toNat + advance tracked.rtc tick = 60 ∧
        reached tick.unset (localRTC tick.unsetDay tracked.rtc tick.elapsed).currentTime
          tracked.table.timer slot
  stays : tracked.present.isSome = true →
    tracked.rtc.currentTime.second.toNat + advance tracked.rtc tick = 0 →
    ∀ slot, (tracked.table.timer slot).type = .repeat →
      comes tracked.rtc.currentTime (tracked.table.timer slot) = true →
      ¬ reached tick.unset (localRTC tick.unsetDay tracked.rtc tick.elapsed).currentTime
          tracked.table.timer slot

/-- The timers in the table are those of the present minute, but for the once timers that have
run in it. -/
structure Followed (tracked : Tracked) : Prop where
  valid : Valid tracked.rtc
  minute : ∀ passage ∈ tracked.present, minuteOf passage.now = minuteOf tracked.rtc.currentTime
  kind : ∀ passage ∈ tracked.present, ∀ slot,
    (tracked.table.timer slot).type = (passage.timer slot).type
  again : ∀ passage ∈ tracked.present, ∀ slot, (passage.timer slot).type = .repeat →
    tracked.table.timer slot = passage.timer slot
  once : ∀ passage ∈ tracked.present, ∀ slot, (passage.timer slot).type = .once →
    (passage.ran slot = 0 ∧ tracked.table.timer slot = passage.timer slot) ∨
      active (tracked.table.timer slot) = false

section Minutes

variable {unset : Int} {now other : IoTgoGMTTime} {timer : IotgoTimer}

theorem comes_congr (same : minuteOf now = minuteOf other) (timer : IotgoTimer) :
    comes now timer = comes other timer := by
  unfold comes
  rw [same]

theorem due_iff_comes (kind : timer.type = .once) :
    due now timer = true ↔ comes now timer = true ∧ now.second = 0 := by
  unfold due comes
  rw [gmt_compare_minute]
  simp [kind, and_assoc]

theorem disarmed_type (now : IoTgoGMTTime) (timer : IotgoTimer) :
    (disarmed now timer).type = timer.type := by
  unfold disarmed
  split <;> rfl

theorem disarmed_repeat (kind : timer.type = .repeat) : disarmed now timer = timer := by
  rw [disarmed_eq_iff]
  simp [due, kind]

theorem active_of_disarmed (inactive : active timer = false) :
    active (disarmed now timer) = false := by
  have same : disarmed now timer = timer := by
    rw [disarmed_eq_iff]
    simp [due, inactive]
  rw [same]
  exact inactive

theorem disarmed_due (fires : due now timer = true) : active (disarmed now timer) = false := by
  unfold disarmed active
  rw [if_pos fires]
  simp

theorem comes_inactive (inactive : active timer = false) : comes now timer = false := by
  unfold comes
  rw [inactive]
  rfl

end Minutes

section Slots

variable {unset : Int} {now : IoTgoGMTTime} {timer : Fin iotgoTimerNum → IotgoTimer}
  {slot : Fin iotgoTimerNum}

theorem calls_eq_zero (kind : (timer slot).type = .once ∨ (timer slot).type = .repeat)
    (misses : ¬ (comes now (timer slot) = true ∧ now.second = 0)) :
    callsOf unset now timer slot = 0 := by
  by_cases reach : reached unset now timer slot
  · rw [calls_of_reached reach, called_length kind, if_neg misses]
  · exact calls_of_blocked reach

theorem calls_eq_one (reach : reached unset now timer slot)
    (arrives : comes now (timer slot) = true)
    (begins : now.second = 0) : callsOf unset now timer slot = 1 := by
  rw [calls_of_reached reach, called_length (kind_of_comes arrives), if_pos ⟨arrives, begins⟩]

end Slots

variable {tracked : Tracked} {tick : Tick}

theorem second_zero_iff {time : IoTgoGMTTime} : time.second = 0 ↔ time.second.toNat = 0 := by
  rw [← UInt8.toNat_inj]
  rfl

theorem enters_iff : enters tracked.rtc tick = true ↔
    60 ≤ tracked.rtc.currentTime.second.toNat + advance tracked.rtc tick := by
  rw [enters, decide_eq_true_iff]

theorem table_after (running : (after tracked tick).halted = false) (slot : Fin iotgoTimerNum) :
    (after tracked tick).table.timer slot =
      disarmed (localRTC tick.unsetDay tracked.rtc tick.elapsed).currentTime
        (tracked.table.timer slot) := by
  unfold after at running ⊢
  dsimp only at running ⊢
  cases dealt : timerDealTime tick.unset
      (localRTC tick.unsetDay tracked.rtc tick.elapsed).currentTime tracked.table with
  | none =>
      rw [dealt] at running
      cases running
  | some result =>
      obtain ⟨table, actions⟩ := result
      rw [deal_time_disarms dealt]
      rfl

theorem lawful_enters_iff (followed : Followed tracked) (lawful : Lawful tracked)
    (into : enters tracked.rtc tick = true) :
    Lawful (after tracked tick) ↔ Within tracked tick := by
  have beyond := enters_iff.1 into
  have second := local_rtc_enters followed.valid tick beyond
  have begins : (localRTC tick.unsetDay tracked.rtc tick.elapsed).currentTime.second = 0 ↔
      tracked.rtc.currentTime.second.toNat + advance tracked.rtc tick = 60 := by
    rw [second_zero_iff, second]
    omega
  have past : ∀ passage ∈ (after tracked tick).past, Exact passage := by
    unfold after
    dsimp only
    rw [if_pos into]
    intro passage member
    rcases List.mem_append.1 member with before | last
    · exact lawful.past passage before
    · exact lawful.present passage (Option.mem_toList.1 last)
  have present : (after tracked tick).present =
      some ⟨(localRTC tick.unsetDay tracked.rtc tick.elapsed).currentTime, tracked.table.timer,
        callsOf tick.unset (localRTC tick.unsetDay tracked.rtc tick.elapsed).currentTime
          tracked.table.timer⟩ := by
    unfold after passageAfter
    dsimp only
    rw [if_pos into]
  constructor
  · intro kept
    refine ⟨fun _ slot arrives => ?_, fun _ still => absurd still (by omega)⟩
    have once := kept.present _ present slot arrives
    dsimp only at once
    by_contra missed
    rw [← begins, not_and_or] at missed
    rcases missed with later | blocked
    · rw [calls_eq_zero (kind_of_comes arrives) fun both => later both.2] at once
      cases once
    · rw [calls_of_blocked blocked] at once
      cases once
  · intro within
    refine ⟨past, ?_⟩
    rw [present]
    rintro passage ⟨⟩ slot arrives
    obtain ⟨sixty, reach⟩ := within.enters beyond slot arrives
    exact calls_eq_one reach arrives (begins.2 sixty)

theorem lawful_stays_iff (followed : Followed tracked) (lawful : Lawful tracked)
    (inside : enters tracked.rtc tick = false) :
    Lawful (after tracked tick) ↔ Within tracked tick := by
  have less : tracked.rtc.currentTime.second.toNat + advance tracked.rtc tick < 60 := by
    rw [← Nat.not_le, ← enters_iff, inside]
    exact Bool.false_ne_true
  obtain ⟨minute, second⟩ := local_rtc_stays followed.valid tick less
  have begins : (localRTC tick.unsetDay tracked.rtc tick.elapsed).currentTime.second = 0 ↔
      tracked.rtc.currentTime.second.toNat + advance tracked.rtc tick = 0 := by
    rw [second_zero_iff, second]
  have past : (after tracked tick).past = tracked.past := by
    unfold after
    dsimp only
    rw [if_neg (by rw [inside]; exact Bool.false_ne_true)]
  have present : (after tracked tick).present = tracked.present.map fun passage =>
      { passage with
        ran := fun slot => passage.ran slot +
          callsOf tick.unset (localRTC tick.unsetDay tracked.rtc tick.elapsed).currentTime
            tracked.table.timer slot } := by
    unfold after passageAfter
    dsimp only
    rw [if_neg (by rw [inside]; exact Bool.false_ne_true)]
  constructor
  · intro kept
    refine ⟨fun beyond => absurd beyond (Nat.not_le_of_lt less), ?_⟩
    intro entered still slot again matching reach
    obtain ⟨passage, here⟩ := Option.isSome_iff_exists.1 entered
    have same := followed.again passage here slot (followed.kind passage here slot ▸ again)
    have arrives : comes passage.now (passage.timer slot) = true := by
      rw [← same, comes_congr (followed.minute passage here)]
      exact matching
    have arrivesNow : comes (localRTC tick.unsetDay tracked.rtc tick.elapsed).currentTime
        (tracked.table.timer slot) = true := by
      rw [comes_congr minute]
      exact matching
    have more := kept.present _ (present.trans (congrArg _ here)) slot arrives
    have ran := lawful.present passage here slot arrives
    dsimp only at more
    rw [ran, calls_eq_one reach arrivesNow (begins.2 still)] at more
    cases more
  · intro within
    refine ⟨fun passage member => lawful.past passage (past ▸ member), ?_⟩
    rw [present]
    intro passage' member slot arrives
    obtain ⟨passage, here, rfl⟩ := Option.mem_map.1 member
    have ran := lawful.present passage here slot arrives
    have silent : callsOf tick.unset (localRTC tick.unsetDay tracked.rtc tick.elapsed).currentTime
        tracked.table.timer slot = 0 := by
      rcases kind_of_comes arrives with once | again
      · have kind := followed.kind passage here slot
        rw [once] at kind
        apply calls_eq_zero (.inl kind)
        rintro ⟨comes', -⟩
        rcases followed.once passage here slot once with ⟨never, -⟩ | inactive
        · rw [ran] at never
          cases never
        · rw [comes_inactive inactive] at comes'
          cases comes'
      · have same := followed.again passage here slot again
        rw [← same] at again
        by_cases zero : (localRTC tick.unsetDay tracked.rtc tick.elapsed).currentTime.second = 0
        · apply calls_of_blocked
          apply within.stays (Option.isSome_iff_exists.2 ⟨passage, here⟩) (begins.1 zero) slot again
          rw [same, ← comes_congr (followed.minute passage here)]
          exact arrives
        · exact calls_eq_zero (.inr again) fun both => zero both.2
    dsimp only
    rw [ran, silent]

theorem lawful_after_iff (followed : Followed tracked) (lawful : Lawful tracked) :
    Lawful (after tracked tick) ↔ Within tracked tick := by
  cases into : enters tracked.rtc tick with
  | true => exact lawful_enters_iff followed lawful into
  | false => exact lawful_stays_iff followed lawful into

theorem followed_after (followed : Followed tracked)
    (running : (after tracked tick).halted = false) : Followed (after tracked tick) := by
  have table := table_after running
  have valid : Valid (after tracked tick).rtc := valid_local_rtc followed.valid tick
  cases into : enters tracked.rtc tick with
  | true =>
      have present : (after tracked tick).present =
          some ⟨(after tracked tick).rtc.currentTime, tracked.table.timer,
            callsOf tick.unset (after tracked tick).rtc.currentTime tracked.table.timer⟩ := by
        unfold after passageAfter
        dsimp only
        rw [if_pos into]
      refine ⟨valid, ?_, ?_, ?_, ?_⟩
      · rw [present]
        rintro passage ⟨⟩
        rfl
      · rw [present]
        rintro passage ⟨⟩ slot
        rw [table, disarmed_type]
      · rw [present]
        rintro passage ⟨⟩ slot again
        rw [table, disarmed_repeat again]
      · rw [present]
        rintro passage ⟨⟩ slot once
        rw [table]
        by_cases fires : due (after tracked tick).rtc.currentTime (tracked.table.timer slot) = true
        · exact .inr (disarmed_due fires)
        · refine .inl ⟨?_, disarmed_eq_iff.2 (Bool.eq_false_iff.2 fires)⟩
          apply calls_eq_zero (.inl once)
          rwa [← due_iff_comes once]
  | false =>
      have less : tracked.rtc.currentTime.second.toNat + advance tracked.rtc tick < 60 := by
        rw [← Nat.not_le, ← enters_iff, into]
        exact Bool.false_ne_true
      obtain ⟨minute, -⟩ := local_rtc_stays followed.valid tick less
      have present : (after tracked tick).present = tracked.present.map fun passage =>
          { passage with
            ran := fun slot => passage.ran slot +
              callsOf tick.unset (after tracked tick).rtc.currentTime
                tracked.table.timer slot } := by
        unfold after passageAfter
        dsimp only
        rw [if_neg (by rw [into]; exact Bool.false_ne_true)]
      refine ⟨valid, ?_, ?_, ?_, ?_⟩
      · rw [present]
        intro passage' member
        obtain ⟨passage, here, rfl⟩ := Option.mem_map.1 member
        exact (followed.minute passage here).trans minute.symm
      · rw [present]
        intro passage' member slot
        obtain ⟨passage, here, rfl⟩ := Option.mem_map.1 member
        rw [table, disarmed_type]
        exact followed.kind passage here slot
      · rw [present]
        intro passage' member slot again
        obtain ⟨passage, here, rfl⟩ := Option.mem_map.1 member
        have same := followed.again passage here slot again
        rw [table, same]
        exact disarmed_repeat again
      · rw [present]
        intro passage' member slot once
        obtain ⟨passage, here, rfl⟩ := Option.mem_map.1 member
        have kind := followed.kind passage here slot
        rw [show (passage.timer slot).type = .once from once] at kind
        rw [table]
        rcases followed.once passage here slot once with ⟨never, same⟩ | inactive
        · by_cases fires : due (after tracked tick).rtc.currentTime
              (tracked.table.timer slot) = true
          · exact .inr (disarmed_due fires)
          · have silent : callsOf tick.unset (after tracked tick).rtc.currentTime
                tracked.table.timer slot = 0 := by
              apply calls_eq_zero (.inl kind)
              rwa [← due_iff_comes kind]
            refine .inl ⟨?_, ?_⟩
            · dsimp only
              rw [never, silent]
            · exact (disarmed_eq_iff.2 (Bool.eq_false_iff.2 fires)).trans same
        · exact .inr (active_of_disarmed inactive)

theorem followed_start (rtc : RtcState) (valid : Valid rtc) (table : TimerTable) :
    Followed (.start rtc table) where
  valid := valid
  minute := fun passage member => by cases member
  kind := fun passage member => by cases member
  again := fun passage member => by cases member
  once := fun passage member => by cases member

theorem lawful_start (rtc : RtcState) (table : TimerTable) : Lawful (.start rtc table) where
  past := fun passage member => absurd member List.not_mem_nil
  present := fun passage member => by cases member

/-- In every minute that the clock enters, each enabled once timer of that minute and each enabled
repeat timer that it matches runs exactly once, exactly in the runs in which the ticks neither
step over the beginning of such a minute nor stay at it. -/
theorem timers_run_once_iff (rtc : { rtc : RtcState // Valid rtc }) (table : TimerTable)
    (ticks : List Tick) :
    Keeps Step Lawful (.start rtc.val table) ticks ↔
      Meets Step (fun tracked tick => tracked.halted = false → Within tracked tick)
        (.start rtc.val table) ticks := by
  refine keeps_iff_meets (fun tracked => tracked.halted = false → Followed tracked)
    ?_ ?_ ?_ (lawful_start rtc.val table)
  · rintro tracked tick next followed ⟨running, rfl⟩ later
    exact followed_after (followed running) later
  · intro tracked tick followed lawful
    constructor
    · intro kept running
      rw [← lawful_after_iff (followed running) lawful]
      exact kept _ ⟨running, rfl⟩
    · rintro within next ⟨running, rfl⟩
      rw [lawful_after_iff (followed running) lawful]
      exact within running
  · intro _
    exact followed_start rtc.val rtc.property table

end Runs

section Examples

def beforeEight : RtcState where
  countDown := 0
  started := true
  micro := 500000
  currentTime := ⟨2024, 3, 1, 7, 59, 59⟩

theorem before_eight_valid : Valid beforeEight :=
  ⟨by decide, by decide⟩

/-- A timer for eight o'clock of every day. -/
def everyDayAtEight : IotgoTimer :=
  { IotgoTimer.zero with
    id := 1
    enabled := 1
    type := .repeat
    timing := fun index => if index.val < 7 then 1 else if index.val = 7 then 8 else 0 }

def oneTimer : TimerTable :=
  { TimerTable.zero with timer := fun slot => if slot.val = 0 then everyDayAtEight else .zero }

def slowTick : Tick where
  elapsed := 1500000
  short := by decide
  unsetDay := 0
  unset := 0

/-- The tick takes the clock from 07:59:59 to 08:00:01, and the timer does not run. -/
theorem eight_missed : ¬ Keeps Step Lawful (.start beforeEight oneTimer) [slowTick] := by
  intro kept
  have later : Lawful (after (.start beforeEight oneTimer) slowTick) := kept.2 _ ⟨rfl, rfl⟩
  rw [lawful_after_iff (followed_start _ before_eight_valid _) (lawful_start _ _)] at later
  have sixty := later.enters (by decide) ⟨0, by decide⟩ (by decide)
  exact absurd sixty.1 (by decide)

end Examples

end IotgoFirmware.Timers.TimerTicks
