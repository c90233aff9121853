import IotgoFirmware.Library.PeriodicEvents
import IotgoFirmware.Timers.TimerMonitor

/-!
# Duration timers

A duration timer is evaluated once at every second from its start on. The counting
callback acts once at the start and once at the end of the duration in each interval; the
two tests of the time elapsed are compared with it.
-/

namespace IotgoFirmware.Timers.DurationTimers

open IotgoFirmware.Library.CIntegers
open IotgoFirmware.Library.GregorianClock
open IotgoFirmware.Library.PeriodicEvents
open IotgoFirmware.Timers.TimerLayout
open IotgoFirmware.Timers.TimerClock hiding daysBeforeYear
open IotgoFirmware.Timers.TimerCalendar
open IotgoFirmware.Timers.TimerMonitor

set_option autoImplicit false

section Passes

variable {State Action : Type}

/-- The pass at a second, over what the passes at the seconds before have left. -/
def passAt (pass : Nat → State → Option (State × List Action)) (state : State) :
    Nat → Option (State × List Action)
  | 0 => pass 0 state
  | second + 1 => (passAt pass state second).bind fun left => pass (second + 1) left.1

/-- The pass at a second calls these actions. -/
def CalledAt (pass : Nat → State → Option (State × List Action)) (state : State)
    (actions : List Action) (second : Nat) : Prop :=
  ∃ left, passAt pass state second = some (left, actions)

variable {pass : Nat → State → Option (State × List Action)} {Inv : Nat → State → Prop}
  {calls : Nat → List Action} {state : State} {last : Nat}

theorem pass_at_invariant (initial : Inv 0 state)
    (step : ∀ second ≤ last, ∀ before, Inv second before →
      ∃ left, pass second before = some (left, calls second) ∧ Inv (second + 1) left)
    {second : Nat} (reached : second ≤ last) :
    ∃ left, passAt pass state second = some (left, calls second) ∧ Inv (second + 1) left := by
  induction second with
  | zero => exact step 0 reached state initial
  | succ second ih =>
      obtain ⟨before, passed, holds⟩ := ih (Nat.le_of_succ_le reached)
      obtain ⟨left, next, kept⟩ := step (second + 1) reached before holds
      refine ⟨left, ?_, kept⟩
      rw [passAt, passed]
      exact next

theorem called_at_iff (initial : Inv 0 state)
    (step : ∀ second ≤ last, ∀ before, Inv second before →
      ∃ left, pass second before = some (left, calls second) ∧ Inv (second + 1) left)
    {second : Nat} (reached : second ≤ last) (actions : List Action) :
    CalledAt pass state actions second ↔ calls second = actions := by
  obtain ⟨left, passed, -⟩ := pass_at_invariant initial step reached
  simp [CalledAt, passed]

end Passes

section Counting

/-- The object is started at the first second, and the callback counts every later one. -/
def countingPass (second : Nat) (object : IoTgoTimeObject) :
    Option (IoTgoTimeObject × List Call) :=
  if second = 0 then some (object, [.startDo object.pStartDo])
  else some (durationStartEndTimerCallback object)

/-- What the counting object has counted before a pass. -/
structure Counted (added : IoTgoTimeObject) (second : Nat) (object : IoTgoTimeObject) : Prop where
  interval : object.timeInterval = added.timeInterval
  duration : object.timeDuration = added.timeDuration
  startPtr : object.pStartDo = added.pStartDo
  endPtr : object.pEndDo = added.pEndDo
  seconds : object.secondCount.toNat = (second - 1) % 60
  minutes : object.minuteCount.toNat = (second - 1) / 60 % added.timeInterval.toNat

def countingCalls (object : IoTgoTimeObject) (second : Nat) : List Call :=
  if second % 60 = 0 ∧ second / 60 % object.timeInterval.toNat = 0 then
    [.startDo object.pStartDo]
  else if second % 60 = 0 ∧ second / 60 % object.timeInterval.toNat = object.timeDuration.toNat then
    [.endDo object.pEndDo]
  else []

variable {added object : IoTgoTimeObject} {second : Nat}

theorem byte_succ {count : UInt8} (small : count.toNat < 60) :
    (count + 1).toNat = count.toNat + 1 := by
  have one : (1 : UInt8).toNat = 1 := rfl
  rw [UInt8.toNat_add, one]
  omega

theorem word_succ {count bound : UInt32} (small : count.toNat < bound.toNat) :
    (count + 1).toNat = count.toNat + 1 := by
  have width := bound.toNat_lt
  have one : (1 : UInt32).toNat = 1 := rfl
  rw [UInt32.toNat_add, one]
  omega

theorem counting_within (counted : Counted added (second + 1) object)
    (part : (second + 1) % 60 ≠ 0) :
    ∃ left, durationStartEndTimerCallback object = (left, countingCalls added (second + 1)) ∧
      Counted added (second + 2) left := by
  have seconds := counted.seconds
  have minutes := counted.minutes
  have next := @byte_succ object.secondCount (by omega)
  have unfinished : object.secondCount + 1 ≠ 60 := by
    intro full
    have sixty := congrArg UInt8.toNat full
    rw [next] at sixty
    simp at sixty
    omega
  refine ⟨{ object with secondCount := object.secondCount + 1 }, ?_, ?_⟩
  · rw [durationStartEndTimerCallback, if_neg unfinished, countingCalls, if_neg (by simp [part]),
      if_neg (by simp [part])]
  · refine ⟨counted.interval, counted.duration, counted.startPtr, counted.endPtr, ?_, ?_⟩
    · dsimp only
      omega
    · dsimp only
      rw [minutes]
      have same : (second + 1 - 1) / 60 = (second + 2 - 1) / 60 := by omega
      rw [same]

theorem counted_minute (counted : Counted added (second + 1) object)
    (whole : (second + 1) % 60 = 0) {count : UInt32}
    (minutes : count.toNat = (second + 1) / 60 % added.timeInterval.toNat) :
    Counted added (second + 2) { object with secondCount := 0, minuteCount := count } where
  interval := counted.interval
  duration := counted.duration
  startPtr := counted.startPtr
  endPtr := counted.endPtr
  seconds := whole.symm
  minutes := minutes

theorem counting_minute (counted : Counted added (second + 1) object)
    (positive : 0 < added.timeDuration) (shorter : added.timeDuration < added.timeInterval)
    (whole : (second + 1) % 60 = 0) :
    ∃ left, durationStartEndTimerCallback object = (left, countingCalls added (second + 1)) ∧
      Counted added (second + 2) left := by
  have seconds := counted.seconds
  have minutes : object.minuteCount.toNat = second / 60 % added.timeInterval.toNat :=
    counted.minutes
  rw [UInt32.lt_iff_toNat_lt] at shorter
  have lasting : 0 < added.timeDuration.toNat := positive
  have interval : 0 < added.timeInterval.toNat := Nat.zero_lt_of_lt shorter
  have below := Nat.mod_lt (second / 60) interval
  have full : object.secondCount + 1 = 60 := by
    apply UInt8.toNat.inj
    rw [byte_succ (by omega), seconds]
    simp
    omega
  have next : (object.minuteCount + 1).toNat = object.minuteCount.toNat + 1 :=
    @word_succ object.minuteCount added.timeInterval (by omega)
  have quotient : (second + 1) / 60 = second / 60 + 1 := by omega
  have reached := @succ_mod added.timeInterval.toNat (second / 60) interval
  rw [← quotient, ← minutes] at reached
  rw [durationStartEndTimerCallback, if_pos full, countingCalls]
  by_cases ends : object.minuteCount + 1 = object.timeDuration
  · have count : object.minuteCount.toNat + 1 = added.timeDuration.toNat := by
      rw [← next, ends, counted.duration]
    rw [if_neg (by omega), count] at reached
    refine ⟨{ object with secondCount := 0, minuteCount := object.minuteCount + 1 }, ?_, ?_⟩
    · rw [if_pos ends, ← counted.endPtr, if_neg (by omega), if_pos ⟨whole, reached⟩]
    · exact counted_minute counted whole (by omega)
  · have other : object.minuteCount.toNat + 1 ≠ added.timeDuration.toNat := by
      rw [← next, ← counted.duration]
      exact fun same => ends (UInt32.toNat.inj same)
    by_cases starts : object.minuteCount + 1 = object.timeInterval
    · have count : object.minuteCount.toNat + 1 = added.timeInterval.toNat := by
        rw [← next, starts, counted.interval]
      rw [if_pos count] at reached
      refine ⟨{ object with secondCount := 0, minuteCount := 0 }, ?_, ?_⟩
      · rw [if_neg ends, if_pos starts, ← counted.startPtr, if_pos ⟨whole, reached⟩]
      · exact counted_minute counted whole reached.symm
    · have inside : object.minuteCount.toNat + 1 ≠ added.timeInterval.toNat := by
        rw [← next, ← counted.interval]
        exact fun same => starts (UInt32.toNat.inj same)
      rw [if_neg inside] at reached
      refine ⟨{ object with secondCount := 0, minuteCount := object.minuteCount + 1 }, ?_, ?_⟩
      · rw [if_neg ends, if_neg starts, if_neg (by omega), if_neg (by omega)]
      · exact counted_minute counted whole (by omega)

theorem counting_pass (positive : 0 < added.timeDuration)
    (shorter : added.timeDuration < added.timeInterval) (counted : Counted added second object) :
    ∃ left, countingPass second object = some (left, countingCalls added second) ∧
      Counted added (second + 1) left := by
  unfold countingPass
  cases second with
  | zero =>
      refine ⟨object, ?_, ?_⟩
      · rw [if_pos rfl, countingCalls, if_pos ⟨rfl, by simp⟩, counted.startPtr]
      · exact ⟨counted.interval, counted.duration, counted.startPtr, counted.endPtr,
          counted.seconds, counted.minutes⟩
  | succ second =>
      rw [if_neg (Nat.succ_ne_zero second)]
      by_cases whole : (second + 1) % 60 = 0
      · obtain ⟨left, called, kept⟩ := counting_minute counted positive shorter whole
        exact ⟨left, congrArg some called, kept⟩
      · obtain ⟨left, called, kept⟩ := counting_within counted whole
        exact ⟨left, congrArg some called, kept⟩

theorem counting_start_iff (second : Nat) :
    countingCalls added second = [.startDo added.pStartDo] ↔
      Starting 60 added.timeInterval.toNat second := by
  unfold countingCalls
  split
  · rename_i starts
    exact iff_of_true rfl starts
  · rename_i other
    split
    · exact iff_of_false (by simp) other
    · exact iff_of_false (by simp) other

theorem counting_end_iff (positive : 0 < added.timeDuration) (second : Nat) :
    countingCalls added second = [.endDo added.pEndDo] ↔
      Ending 60 added.timeInterval.toNat added.timeDuration.toNat second := by
  have lasting : 0 < added.timeDuration.toNat := positive
  unfold countingCalls Ending
  split
  · refine iff_of_false (by simp) ?_
    omega
  · split
    · rename_i ends
      exact iff_of_true rfl ends
    · rename_i other
      exact iff_of_false (by simp) other

theorem counting_once_per_period (positive : 0 < added.timeDuration)
    (shorter : added.timeDuration < added.timeInterval) (seconds : added.secondCount = 0)
    (minutes : added.minuteCount = 0) (last : Nat) :
    OncePerPeriod 60 added.timeInterval.toNat added.timeDuration.toNat last
      (CalledAt countingPass added [.startDo added.pStartDo])
      (CalledAt countingPass added [.endDo added.pEndDo]) := by
  have initial : Counted added 0 added := by
    refine ⟨rfl, rfl, rfl, rfl, ?_, ?_⟩
    · rw [seconds]
      rfl
    · rw [minutes]
      simp
  rw [once_per_period_iff (by decide) (UInt32.lt_iff_toNat_lt.mp shorter)]
  intro tick reached
  have run : ∀ actions, CalledAt countingPass added actions tick ↔
      countingCalls added tick = actions := by
    apply called_at_iff initial _ reached
    intro second _ object counted
    exact counting_pass positive shorter counted
  rw [run, run]
  exact ⟨counting_start_iff tick, counting_end_iff positive tick⟩

end Counting

section Differences

/-- Both tests of the time elapsed, on two values of the seconds counter. -/
def differenceEvent (current start interval duration : UInt32) : Duration :=
  if current < start then .neither
  else if (current - start) / 60 % interval = 0 ∧ (current - start) % 60 = 0 then .begins
  else if (current - start) / 60 % interval % duration = 0 ∧ (current - start) % 60 = 0 then
    .ends
  else .neither

/-- What a counter of the seconds shows in 32 bits. -/
def wordCount (count : Nat → Nat) (second : Nat) : Nat :=
  count second % UInt32.size

variable {interval duration : UInt32} {count : Nat → Nat} {second : Nat}

theorem ne_zero_of_above {value other : UInt32} (above : value < other) : other ≠ 0 := by
  intro none
  exact UInt32.not_lt_zero (none ▸ above)

theorem starting_word (elapsed : UInt32) :
    elapsed / 60 % interval = 0 ∧ elapsed % 60 = 0 ↔
      Starting 60 interval.toNat elapsed.toNat := by
  rw [← UInt32.toNat_inj, ← UInt32.toNat_inj, UInt32.toNat_mod, UInt32.toNat_div,
    UInt32.toNat_mod]
  exact and_comm

theorem test_ends_word (elapsed : UInt32) :
    ¬Starting 60 interval.toNat elapsed.toNat ∧
        elapsed / 60 % interval % duration = 0 ∧ elapsed % 60 = 0 ↔
      TestEnds 60 interval.toNat duration.toNat elapsed.toNat := by
  rw [← UInt32.toNat_inj, ← UInt32.toNat_inj, UInt32.toNat_mod, UInt32.toNat_mod,
    UInt32.toNat_div, UInt32.toNat_mod]
  have sixty : (60 : UInt32).toNat = 60 := rfl
  have zero : (0 : UInt32).toNat = 0 := rfl
  rw [sixty, zero, Starting, TestEnds]
  constructor
  · rintro ⟨within, multiple, whole⟩
    exact ⟨whole, fun none => within ⟨whole, none⟩, multiple⟩
  · rintro ⟨whole, within, multiple⟩
    exact ⟨fun starting => within starting.2, multiple, whole⟩

theorem difference_event_iff (interval duration : UInt32) (count : Nat → Nat) (second : Nat) :
    (differenceEvent (UInt32.ofNat (count second)) (UInt32.ofNat (count 0)) interval duration =
        .begins ↔
      Seen (wordCount count) (Starting 60 interval.toNat) second) ∧
    (differenceEvent (UInt32.ofNat (count second)) (UInt32.ofNat (count 0)) interval duration =
        .ends ↔
      Seen (wordCount count) (TestEnds 60 interval.toNat duration.toNat) second) := by
  have shown : ∀ second, (UInt32.ofNat (count second)).toNat = wordCount count second :=
    fun second => UInt32.toNat_ofNat'
  unfold Seen differenceEvent
  rw [← shown, ← shown, ← UInt32.le_iff_toNat_le]
  by_cases wrapped : UInt32.ofNat (count second) < UInt32.ofNat (count 0)
  · have less : ¬UInt32.ofNat (count 0) ≤ UInt32.ofNat (count second) := UInt32.not_le.mpr wrapped
    rw [if_pos wrapped]
    exact ⟨iff_of_false (by simp) fun seen => less seen.1,
      iff_of_false (by simp) fun seen => less seen.1⟩
  · have reached := UInt32.not_lt.mp wrapped
    have starts := @starting_word interval (UInt32.ofNat (count second) - UInt32.ofNat (count 0))
    have ends := @test_ends_word interval duration
      (UInt32.ofNat (count second) - UInt32.ofNat (count 0))
    rw [UInt32.toNat_sub_of_le _ _ reached] at starts ends
    rw [if_neg wrapped, and_iff_right reached, and_iff_right reached, ← ends, ← starts]
    split
    · rename_i found
      exact ⟨iff_of_true rfl found, iff_of_false (by simp) fun other => other.1 found⟩
    · rename_i missing
      split
      · rename_i found
        exact ⟨iff_of_false (by simp) missing, iff_of_true rfl ⟨missing, found⟩⟩
      · rename_i other
        exact ⟨iff_of_false (by simp) missing, iff_of_false (by simp) fun both => other both.2⟩

/-- Where a pass calls the two actions as the tests find them, it acts once at the start
and once at the end exactly as long as the tests show them. -/
theorem once_per_period_of_differences {last : Nat} {starts ends : Nat → Prop}
    (positive : 0 < duration) (shorter : duration < interval) (restarting : Restarting count)
    (called : ∀ second ≤ last,
      (starts second ↔ differenceEvent (UInt32.ofNat (count second)) (UInt32.ofNat (count 0))
        interval duration = .begins) ∧
      (ends second ↔ differenceEvent (UInt32.ofNat (count second)) (UInt32.ofNat (count 0))
        interval duration = .ends)) :
    OncePerPeriod 60 interval.toNat duration.toNat last starts ends ↔
      Exact 60 interval.toNat duration.toNat (wordCount count) last := by
  have lasting : 0 < duration.toNat := positive
  have shorter' := UInt32.lt_iff_toNat_lt.mp shorter
  have wraps : Restarting (wordCount count) := restarting_mod (by decide) restarting
  rw [← test_once_per_period_iff (by decide) lasting shorter' wraps, OncePerPeriod,
    OncePerPeriod]
  apply forall₂_congr
  intro second reached
  have test := difference_event_iff interval duration count second
  rw [(called second reached).1, (called second reached).2, test.1, test.2]

/-- A counter that only wraps shows the tests up to the wrap, before it meets the second
multiple of the duration. -/
theorem exact_counting_iff {base interval duration last : Nat}
    (counting : ∀ second, count second = base + second) :
    Exact 60 interval duration (wordCount count) last ↔
      Unwrapped 60 UInt32.size interval duration (base % UInt32.size) last := by
  apply exact_modulus_iff (by decide) (Nat.mod_lt _ (by decide))
  intro second _
  unfold wordCount
  rw [counting, Nat.mod_add_mod]

end Differences

section Loctimer

/-- An enabled duration timer of the table that starts at an instant. -/
structure Stored (start : Instant) (timer : IotgoTimer) : Prop where
  active : active timer = true
  type : timer.type = .duration
  gmt : gmtOf timer = shown start
  positive : 0 < timer.timeDuration
  shorter : timer.timeDuration < timer.timeInterval

/-- `timerDealTime` for the timer, at the instants from the start on. -/
def loctimerPass (unset : Nat → Int) (start : Instant) (second : Nat) (timer : IotgoTimer) :
    Option (IotgoTimer × List (List UInt8)) :=
  dealTimer (unset second) (shown (after start second)) timer

def dealtActions (timer : IotgoTimer) : Duration → List (List UInt8)
  | .begins => [actionDo timer]
  | .ends => [endDo timer]
  | .neither => []

/-- The tests show the start and the end, and the seconds since 2016 at the start are not
taken for a missing time. -/
structure LoctimerExact (start : Instant) (interval duration last : Nat) : Prop where
  late : 2016 ≤ start.year
  counted : secondsSince 2016 start % UInt32.size ≠ 0
  unwrapped : Unwrapped 60 UInt32.size interval duration
    (secondsSince 2016 start % UInt32.size) last

variable {start : Instant} {timer : IotgoTimer} {last : Nat}

theorem action_do_ne_end_do (timer : IotgoTimer) : actionDo timer ≠ endDo timer := by
  intro same
  have lengths := congrArg List.length same
  rw [actionDo, endDo, actionFrom, actionFrom, List.length_drop, List.length_drop,
    List.length_ofFn] at lengths
  omega

theorem dealt_begins_iff (timer : IotgoTimer) (event : Duration) :
    dealtActions timer event = [actionDo timer] ↔ event = .begins := by
  have other := action_do_ne_end_do timer
  cases event <;> simp [dealtActions, other.symm]

theorem dealt_ends_iff (timer : IotgoTimer) (event : Duration) :
    dealtActions timer event = [endDo timer] ↔ event = .ends := by
  have other := action_do_ne_end_do timer
  cases event <;> simp [dealtActions, other]

theorem duration_compare {interval duration : UInt32} (periodic : interval ≠ 0)
    (lasting : duration ≠ 0) (unset : Int) (now gmt : IoTgoGMTTime) :
    durationCompareWithNow unset now gmt interval duration =
      some (if compareTimeToKnowDate unset gmt = 0 then .neither
        else differenceEvent (compareTimeToKnowDate unset now) (compareTimeToKnowDate unset gmt)
          interval duration) := by
  unfold durationCompareWithNow differenceEvent
  by_cases missing : compareTimeToKnowDate unset gmt = 0
  · simp [missing]
  · by_cases wrapped : compareTimeToKnowDate unset now < compareTimeToKnowDate unset gmt
    · simp [missing, wrapped]
    · have current : compareTimeToKnowDate unset now ≠ 0 := by
        intro none
        rw [none] at wrapped
        exact missing (UInt32.le_zero_iff.mp (UInt32.not_lt.mp wrapped))
      simp only [missing, wrapped, current, or_self, if_false, periodic, lasting, ne_eq,
        not_false_eq_true, true_and]
      split
      · rfl
      · split <;> rfl

/-- The event that the pass of a stored timer finds at a time of the clock. -/
def loctimerEvent (unset : Int) (start : Instant) (timer : IotgoTimer) (now : IoTgoGMTTime) :
    Duration :=
  if compareTimeToKnowDate unset (shown start) = 0 then .neither
  else differenceEvent (compareTimeToKnowDate unset now)
    (compareTimeToKnowDate unset (shown start)) timer.timeInterval timer.timeDuration

theorem deal_stored (stored : Stored start timer) (unset : Int) (now : IoTgoGMTTime) :
    dealTimer unset now timer =
      some (timer, dealtActions timer (loctimerEvent unset start timer now)) := by
  have lasting := ne_zero_of_above stored.positive
  have periodic := ne_zero_of_above stored.shorter
  have compared : durationCompareWithNow unset now (shown start) timer.timeInterval
      timer.timeDuration = some (loctimerEvent unset start timer now) :=
    duration_compare periodic lasting ..
  rw [dealTimer, if_neg (by simp [stored.active])]
  simp only [stored.type, stored.gmt, compared]
  generalize loctimerEvent unset start timer now = event
  cases event <;> rfl

theorem loctimer_called_iff (stored : Stored start timer) (unset : Nat → Int) (second : Nat)
    (actions : List (List UInt8)) :
    CalledAt (loctimerPass unset start) timer actions second ↔
      dealtActions timer
        (loctimerEvent (unset second) start timer (shown (after start second))) = actions := by
  apply @called_at_iff _ _ _ (fun _ before => before = timer) _ _ second rfl _ _ (Nat.le_refl _)
  rintro passed - before rfl
  exact ⟨before, deal_stored stored (unset passed) (shown (after start passed)), rfl⟩

theorem start_missing_iff (valid : Valid start) (small : start.year < 65536) (unset : Int) :
    compareTimeToKnowDate unset (shown start) = 0 ↔
      ¬(2016 ≤ start.year ∧ secondsSince 2016 start % UInt32.size ≠ 0) := by
  have word : UInt32.ofNat (secondsSince 2016 start) = 0 ↔
      secondsSince 2016 start % UInt32.size = 0 := by
    rw [← UInt32.toNat_inj, UInt32.toNat_ofNat']
    rfl
  rw [compare_time_to_know_date valid small]
  by_cases early : start.year < 2016
  · rw [if_pos early]
    exact iff_of_true rfl fun known => Nat.not_lt.mpr known.1 early
  · rw [if_neg early, and_iff_right (Nat.not_lt.mp early), not_not, word]

theorem loctimer_event (valid : Valid start) (known : 2016 ≤ start.year)
    (counted : secondsSince 2016 start % UInt32.size ≠ 0) {second : Nat}
    (small : (after start second).year < 65536) (unset : Int) :
    loctimerEvent unset start timer (shown (after start second)) =
      differenceEvent (UInt32.ofNat (secondsSince 2016 (after start second)))
        (UInt32.ofNat (secondsSince 2016 (after start 0))) timer.timeInterval
        timer.timeDuration := by
  have later := known.trans (start_year start second)
  have startYear := Nat.lt_of_le_of_lt (start_year start second) small
  have present := mt (start_missing_iff valid startYear unset).mp (not_not.mpr ⟨known, counted⟩)
  rw [loctimerEvent, if_neg present, compare_time_to_know_date (valid_after valid second) small,
    compare_time_to_know_date valid startYear, if_neg (Nat.not_lt.mpr later),
    if_neg (Nat.not_lt.mpr known)]
  rfl

theorem seconds_since_restarting (valid : Valid start) (reached : 2016 ≤ start.year) :
    Restarting fun second => secondsSince 2016 (after start second) := by
  intro second
  left
  dsimp only
  rw [after_succ]
  exact seconds_since_next (valid_after valid second) (reached.trans (start_year start second))

theorem not_once_of_missing (stored : Stored start timer) (unset : Nat → Int)
    (missing : compareTimeToKnowDate (unset 0) (shown start) = 0) :
    ¬OncePerPeriod 60 timer.timeInterval.toNat timer.timeDuration.toNat last
      (CalledAt (loctimerPass unset start) timer [actionDo timer])
      (CalledAt (loctimerPass unset start) timer [endDo timer]) := by
  intro once
  have called := (once 0 (Nat.zero_le last)).1.mpr ⟨0, by simp⟩
  rw [loctimer_called_iff stored, dealt_begins_iff, loctimerEvent, if_pos missing] at called
  cases called

/-- The stored timer acts once at the start and once at the end of the duration in each
interval, exactly on the conditions of `LoctimerExact`. -/
theorem loctimer_once_iff (valid : Valid start) (small : (after start last).year < 65536)
    (stored : Stored start timer) (unset : Nat → Int) :
    OncePerPeriod 60 timer.timeInterval.toNat timer.timeDuration.toNat last
        (CalledAt (loctimerPass unset start) timer [actionDo timer])
        (CalledAt (loctimerPass unset start) timer [endDo timer]) ↔
      LoctimerExact start timer.timeInterval.toNat timer.timeDuration.toNat last := by
  by_cases known : 2016 ≤ start.year ∧ secondsSince 2016 start % UInt32.size ≠ 0
  · have unwrapped : LoctimerExact start timer.timeInterval.toNat timer.timeDuration.toNat last ↔
        Unwrapped 60 UInt32.size timer.timeInterval.toNat timer.timeDuration.toNat
          (secondsSince 2016 start % UInt32.size) last :=
      ⟨fun exact => exact.unwrapped, fun unwrapped => ⟨known.1, known.2, unwrapped⟩⟩
    have counting : ∀ second, secondsSince 2016 (after start second) =
        secondsSince 2016 start + second := seconds_since_after valid known.1
    rw [unwrapped, ← exact_counting_iff counting]
    apply once_per_period_of_differences stored.positive stored.shorter
      (seconds_since_restarting valid known.1)
    intro second reached
    have year := Nat.lt_of_le_of_lt (after_year start reached) small
    rw [loctimer_called_iff stored, loctimer_called_iff stored, dealt_begins_iff, dealt_ends_iff,
      loctimer_event valid known.1 known.2 year]
    exact ⟨Iff.rfl, Iff.rfl⟩
  · have startYear := Nat.lt_of_le_of_lt (start_year start last) small
    have missing := (start_missing_iff valid startYear (unset 0)).mpr known
    exact iff_of_false (not_once_of_missing stored unset missing)
      fun exact => known ⟨exact.late, exact.counted⟩

end Loctimer

section Monitor

/-- An enabled object of `addTimeObjectDurationStartEnd` that starts at an instant. -/
structure Added (start : Instant) (object : IoTgoTimeObject) : Prop where
  used : object.used = true
  enabled : object.enabled = true
  type : object.type = .intervalDurationStartEnd
  gmt : object.gmt = shown start
  positive : 0 < object.timeDuration
  shorter : object.timeDuration < object.timeInterval
  seconds : object.secondCount = 0
  minutes : object.minuteCount = 0

/-- `timerMonitorCallback` for the object, at the instants from the start on. -/
def monitorPass (unset : Nat → Int) (start : Instant) (second : Nat) (object : IoTgoTimeObject) :
    Option (IoTgoTimeObject × List Call) :=
  monitorObject (unset second) (shown (after start second)) object

def monitorCalls (object : IoTgoTimeObject) : Duration → List Call
  | .begins => [.startDo object.pStartDo]
  | .ends => [.endDo object.pEndDo]
  | .neither => []

variable {start : Instant} {object : IoTgoTimeObject} {last : Nat}

theorem second_zero_iff (value : UInt32) : sint8 (value % 60).toNat = 0 ↔ value % 60 = 0 := by
  have sixty : (60 : UInt32).toNat = 60 := rfl
  have zero : (0 : UInt32).toNat = 0 := rfl
  have below := Nat.mod_lt value.toNat (show 0 < 60 by decide)
  rw [← UInt32.toNat_inj, UInt32.toNat_mod, sixty, zero]
  unfold sint8
  omega

theorem diff_compare_eq {interval duration : UInt32} (periodic : interval ≠ 0)
    (lasting : duration ≠ 0) (diff : IoTgoMinuteDiff) :
    diffCompare diff interval duration =
      some (if UInt32.ofInt diff.minute % interval = 0 ∧ diff.second = 0 then .begins
        else if UInt32.ofInt diff.minute % interval % duration = 0 ∧ diff.second = 0 then .ends
        else .neither) := by
  rw [diffCompare, if_neg periodic, if_neg lasting]
  split
  · rfl
  · split <;> rfl

theorem diff_compare {interval duration : UInt32} (periodic : interval ≠ 0)
    (lasting : duration ≠ 0) (unset : Int) (now gmt : IoTgoGMTTime) :
    diffCompare (minuteDiff unset now gmt) interval duration =
      some (differenceEvent (secondsOfDiff (minuteDiffFromKnownYear unset now))
        (secondsOfDiff (minuteDiffFromKnownYear unset gmt)) interval duration) := by
  rw [diff_compare_eq periodic lasting, minuteDiff, differenceEvent]
  by_cases wrapped : secondsOfDiff (minuteDiffFromKnownYear unset now) <
      secondsOfDiff (minuteDiffFromKnownYear unset gmt)
  · have minus : ¬(-1 : Int) = 0 := by decide
    rw [if_pos wrapped, if_pos wrapped, if_neg fun begins => minus begins.2,
      if_neg fun ends => minus ends.2]
  · rw [if_neg wrapped, if_neg wrapped]
    dsimp only
    simp only [of_int_sint32, second_zero_iff]

theorem monitor_added (added : Added start object) (diff : IoTgoMinuteDiff) (unset : Int)
    (now : IoTgoGMTTime) :
    monitorObject unset now { object with diffTimer := diff } =
      some ({ object with diffTimer := minuteDiff unset now (shown start) },
        monitorCalls object
          (differenceEvent (secondsOfDiff (minuteDiffFromKnownYear unset now))
            (secondsOfDiff (minuteDiffFromKnownYear unset (shown start))) object.timeInterval
            object.timeDuration)) := by
  have lasting := ne_zero_of_above added.positive
  have periodic := ne_zero_of_above added.shorter
  have inactive : ¬(object.used = false ∨ object.enabled = false) := by
    simp [added.used, added.enabled]
  rw [monitorObject, if_neg inactive]
  simp only [added.type, added.gmt, diff_compare periodic lasting]
  generalize differenceEvent _ _ _ _ = event
  cases event <;> rfl

theorem monitor_called_iff (added : Added start object) (unset : Nat → Int) (second : Nat)
    (calls : List Call) :
    CalledAt (monitorPass unset start) object calls second ↔
      monitorCalls object (differenceEvent
        (secondsOfDiff (minuteDiffFromKnownYear (unset second) (shown (after start second))))
        (secondsOfDiff (minuteDiffFromKnownYear (unset second) (shown start)))
        object.timeInterval object.timeDuration) = calls := by
  apply @called_at_iff _ _ _ (fun _ before => ∃ diff, before = { object with diffTimer := diff })
    _ _ second ⟨object.diffTimer, rfl⟩ _ _ (Nat.le_refl _)
  rintro passed - before ⟨diff, rfl⟩
  exact ⟨_, monitor_added added diff (unset passed) (shown (after start passed)), _, rfl⟩

theorem monitor_begins_iff (object : IoTgoTimeObject) (event : Duration) :
    monitorCalls object event = [.startDo object.pStartDo] ↔ event = .begins := by
  cases event <;> simp [monitorCalls]

theorem monitor_ends_iff (object : IoTgoTimeObject) (event : Duration) :
    monitorCalls object event = [.endDo object.pEndDo] ↔ event = .ends := by
  cases event <;> simp [monitorCalls]

/-- The seconds that the monitor compares start again with every month before 2015, and
with the year 2015. -/
theorem monitor_seconds_next {instant : Instant} (valid : Valid instant) :
    monitorSeconds (next instant) = monitorSeconds instant + 1 ∨
      monitorSeconds (next instant) = 0 := by
  unfold monitorSeconds
  have later := next_year instant
  have following := next_year_le instant
  by_cases known : 2015 ≤ instant.year
  · rw [if_pos known, if_pos (known.trans later)]
    exact .inl (seconds_since_next valid known)
  · rw [if_neg known]
    by_cases reached : 2015 ≤ (next instant).year
    · have year : (next instant).year = 2015 := by omega
      have first : secondsSince (next instant).year (next instant) = 0 :=
        seconds_since_new_year (by omega)
      rw [year] at first
      rw [if_pos reached]
      exact .inr first
    · rw [if_neg reached]
      exact (seconds_of_month_next valid).imp_left And.right

theorem monitor_restarting (valid : Valid start) :
    Restarting fun second => monitorSeconds (after start second) := by
  intro second
  dsimp only
  rw [after_succ]
  exact monitor_seconds_next (valid_after valid second)

/-- What the monitor counts of the seconds at the instants from the start on. -/
def monitorCount (start : Instant) : Nat → Nat :=
  wordCount fun second => monitorSeconds (after start second)

/-- The object acts once at the start and once at the end of the duration in each interval
exactly as long as the tests show it. -/
theorem monitor_once_iff (valid : Valid start) (small : (after start last).year < 65536)
    (added : Added start object) (unset : Nat → Int) :
    OncePerPeriod 60 object.timeInterval.toNat object.timeDuration.toNat last
        (CalledAt (monitorPass unset start) object [.startDo object.pStartDo])
        (CalledAt (monitorPass unset start) object [.endDo object.pEndDo]) ↔
      Exact 60 object.timeInterval.toNat object.timeDuration.toNat (monitorCount start) last := by
  have startYear : start.year < 65536 := Nat.lt_of_le_of_lt (start_year start last) small
  apply once_per_period_of_differences added.positive added.shorter (monitor_restarting valid)
  intro second reached
  have year := Nat.lt_of_le_of_lt (after_year start reached) small
  have event := monitor_called_iff added unset second
  rw [minute_diff_from_known_year (valid_after valid second) year,
    minute_diff_from_known_year valid startYear] at event
  rw [event, event, monitor_begins_iff, monitor_ends_iff]
  exact ⟨Iff.rfl, Iff.rfl⟩

theorem monitor_exact_iff (valid : Valid start) (known : 2015 ≤ start.year)
    {interval duration : Nat} :
    Exact 60 interval duration (monitorCount start) last ↔
      Unwrapped 60 UInt32.size interval duration (secondsSince 2015 start % UInt32.size) last := by
  apply exact_counting_iff
  intro second
  rw [monitorSeconds, if_pos (known.trans (start_year start second)),
    seconds_since_after valid known]

end Monitor

section Comparison

/-- Over every run from its start on the counting version acts once at the start and once
at the end of the duration in each interval. The timer of the table does so exactly on the
conditions of `LoctimerExact`, and the object of the list exactly as long as the tests of
what it counts show it, which from 2015 on is up to the wrap and before the second multiple
of the duration. -/
theorem duration_timers_once_iff {start : Instant} {last : Nat} (valid : Valid start)
    (small : (after start last).year < 65536) :
    (∀ object, Added start object →
      OncePerPeriod 60 object.timeInterval.toNat object.timeDuration.toNat last
        (CalledAt countingPass object [.startDo object.pStartDo])
        (CalledAt countingPass object [.endDo object.pEndDo])) ∧
    (∀ unset timer, Stored start timer →
      (OncePerPeriod 60 timer.timeInterval.toNat timer.timeDuration.toNat last
          (CalledAt (loctimerPass unset start) timer [actionDo timer])
          (CalledAt (loctimerPass unset start) timer [endDo timer]) ↔
        LoctimerExact start timer.timeInterval.toNat timer.timeDuration.toNat last)) ∧
    (∀ unset object, Added start object →
      (OncePerPeriod 60 object.timeInterval.toNat object.timeDuration.toNat last
          (CalledAt (monitorPass unset start) object [.startDo object.pStartDo])
          (CalledAt (monitorPass unset start) object [.endDo object.pEndDo]) ↔
        Exact 60 object.timeInterval.toNat object.timeDuration.toNat (monitorCount start) last) ∧
      (2015 ≤ start.year →
        (Exact 60 object.timeInterval.toNat object.timeDuration.toNat (monitorCount start) last ↔
          Unwrapped 60 UInt32.size object.timeInterval.toNat object.timeDuration.toNat
            (secondsSince 2015 start % UInt32.size) last))) := by
  refine ⟨?_, ?_, ?_⟩
  · intro object added
    exact counting_once_per_period added.positive added.shorter added.seconds added.minutes last
  · intro unset timer stored
    exact loctimer_once_iff valid small stored unset
  · intro unset object added
    refine ⟨monitor_once_iff valid small added unset, ?_⟩
    intro known
    exact monitor_exact_iff valid known

def newYear : Instant :=
  ⟨2020, 1, 1, 0, 0, 0⟩

/-- A timer of the table that starts at the new year. -/
def newYearTimer (interval duration : UInt32) : IotgoTimer :=
  { IotgoTimer.zero with
    timeInterval := interval
    timeDuration := duration
    id := 1
    enabled := 1
    type := .duration
    timing := fun index => [228, 7, 1, 1, 0, 0, 0, 0, 0, 0].get index }

/-- An object of the list that starts at the new year. -/
def newYearObject (interval duration : UInt32) : IoTgoTimeObject :=
  { deletedTimeObject with
    type := .intervalDurationStartEnd
    gmt := shown newYear
    timeInterval := interval
    timeDuration := duration
    pStartDo := some [49]
    pEndDo := some [48]
    enabled := true
    used := true }

theorem new_year_valid : Valid newYear := by
  refine ⟨?_, ?_, ?_, ?_, ?_⟩ <;> decide

theorem new_year_small (seconds : Nat) (few : seconds < 60000) :
    (after newYear seconds).year < 65536 := by
  have later := after_year_le newYear seconds
  have year : newYear.year = 2020 := rfl
  omega

theorem new_year_stored {interval duration : UInt32} (positive : 0 < duration)
    (shorter : duration < interval) : Stored newYear (newYearTimer interval duration) where
  active := rfl
  type := rfl
  gmt := rfl
  positive := positive
  shorter := shorter

theorem new_year_added {interval duration : UInt32} (positive : 0 < duration)
    (shorter : duration < interval) : Added newYear (newYearObject interval duration) where
  used := rfl
  enabled := rfl
  type := rfl
  gmt := rfl
  positive := positive
  shorter := shorter
  seconds := rfl
  minutes := rfl

theorem new_year_seconds : secondsSince 2016 newYear % UInt32.size = 126230400 := by
  decide

theorem new_year_monitor_seconds : secondsSince 2015 newYear % UInt32.size = 157766400 := by
  decide

/-- A duration of one minute in every two ends once. -/
theorem two_minutes_once :
    OncePerPeriod 60 2 1 240
        (CalledAt countingPass (newYearObject 2 1) [.startDo (some [49])])
        (CalledAt countingPass (newYearObject 2 1) [.endDo (some [48])]) ∧
      OncePerPeriod 60 2 1 240
        (CalledAt (loctimerPass (fun _ => 0) newYear) (newYearTimer 2 1)
          [actionDo (newYearTimer 2 1)])
        (CalledAt (loctimerPass (fun _ => 0) newYear) (newYearTimer 2 1)
          [endDo (newYearTimer 2 1)]) ∧
      OncePerPeriod 60 2 1 240
        (CalledAt (monitorPass (fun _ => 0) newYear) (newYearObject 2 1) [.startDo (some [49])])
        (CalledAt (monitorPass (fun _ => 0) newYear) (newYearObject 2 1) [.endDo (some [48])]) := by
  obtain ⟨counting, loctimer, monitor⟩ :=
    duration_timers_once_iff new_year_valid (new_year_small 240 (by decide))
  have unwrapped : ∀ base < 200000000, Unwrapped 60 UInt32.size 2 1 base 240 := by
    intro base below
    have size : UInt32.size = 4294967296 := rfl
    exact ⟨by decide, fun tick reached _ => by omega, .inl (by decide)⟩
  refine ⟨?_, ?_, ?_⟩
  · exact counting (newYearObject 2 1) (new_year_added (by decide) (by decide))
  · apply (loctimer (fun _ => 0) (newYearTimer 2 1)
      (new_year_stored (by decide) (by decide))).mpr
    refine ⟨by decide, ?_, ?_⟩
    · rw [new_year_seconds]
      decide
    · rw [new_year_seconds]
      exact unwrapped 126230400 (by decide)
  · have test := monitor (fun _ => 0) (newYearObject 2 1) (new_year_added (by decide) (by decide))
    apply test.1.mpr
    apply (test.2 (by decide)).mpr
    rw [new_year_monitor_seconds]
    exact unwrapped 157766400 (by decide)

/-- A duration of nine minutes in every hour ends again after eighteen. -/
theorem nine_minutes_end_again :
    Stored newYear (newYearTimer 60 9) ∧ Added newYear (newYearObject 60 9) ∧
      ¬OncePerPeriod 60 60 9 1080
        (CalledAt (loctimerPass (fun _ => 0) newYear) (newYearTimer 60 9)
          [actionDo (newYearTimer 60 9)])
        (CalledAt (loctimerPass (fun _ => 0) newYear) (newYearTimer 60 9)
          [endDo (newYearTimer 60 9)]) ∧
      ¬OncePerPeriod 60 60 9 1080
        (CalledAt (monitorPass (fun _ => 0) newYear) (newYearObject 60 9) [.startDo (some [49])])
        (CalledAt (monitorPass (fun _ => 0) newYear) (newYearObject 60 9)
          [.endDo (some [48])]) := by
  have stored : Stored newYear (newYearTimer 60 9) := new_year_stored (by decide) (by decide)
  have added : Added newYear (newYearObject 60 9) := new_year_added (by decide) (by decide)
  have small := new_year_small 1080 (by decide)
  have spurious : ∀ base < 200000000, ¬Unwrapped 60 UInt32.size 60 9 base 1080 := by
    intro base below unwrapped
    have single := unwrapped.single
    have size : UInt32.size = 4294967296 := rfl
    omega
  refine ⟨stored, added, ?_, ?_⟩
  · intro once
    have exact := (loctimer_once_iff new_year_valid small stored fun _ => 0).mp once
    have unwrapped := exact.unwrapped
    rw [new_year_seconds] at unwrapped
    exact spurious 126230400 (by decide) unwrapped
  · intro once
    have exact := (monitor_once_iff new_year_valid small added fun _ => 0).mp once
    have unwrapped := (monitor_exact_iff new_year_valid (by decide)).mp exact
    rw [new_year_monitor_seconds] at unwrapped
    exact spurious 157766400 (by decide) unwrapped

end Comparison

end IotgoFirmware.Timers.DurationTimers
