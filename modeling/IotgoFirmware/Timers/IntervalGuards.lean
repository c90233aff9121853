import IotgoFirmware.Library.PullParser
import IotgoFirmware.Timers.TimeObjects
import IotgoFirmware.Timers.TimerOrigins

/-!
# No interval of zero

Neither `durationCompareWithNow` nor `timerMonitorCallback` looks whether it divides by zero.
The timers that reach them have intervals, and durations where these divide: the parser of
`iotgo_loctimer.c` refuses an interval of 0, and `procOneTimer` compares both before it adds
an object.
-/

namespace IotgoFirmware.Timers.IntervalGuards

open IotgoFirmware.Library.CFaults
open IotgoFirmware.Library.CJsonItems
open IotgoFirmware.Library.CStrings
open IotgoFirmware.Library.JsonDocuments
open IotgoFirmware.Library.NorFlash
open IotgoFirmware.Library.PullParser (reported)
open IotgoFirmware.Library.SlotMaps
open IotgoFirmware.Library.StepRuns
open IotgoFirmware.Timers.TimerClock
open IotgoFirmware.Timers.TimerFlash
open IotgoFirmware.Timers.TimerJson
open IotgoFirmware.Timers.TimerLayout
open IotgoFirmware.Timers.TimerMap
open IotgoFirmware.Timers.TimerMonitor
open IotgoFirmware.Timers.TimerOrigins
open IotgoFirmware.Timers.TimerProc
open IotgoFirmware.Timers.TimerRequests
open IotgoFirmware.Timers.TimerRuns
open IotgoFirmware.Timers.TimeObjects (TimeObjectList Surroundings addOneTimeObject
  addTimeObjectByGMTString addTimeObjectByCronString addTimeObjectInterval
  addTimeObjectIntervalDuration addTimeObjectDurationStartEnd deleteAllTimeObject procDuration
  procOneTimer monitorObjects timerMonitorCallback noTimeObjects ObjectEvent ObjectStep)

set_option autoImplicit false

section Timers

variable {print : CJsonItem → List UInt8} {item : CJsonItem} {timer timed : IotgoTimer}

theorem parsed_interval {text gmt : List UInt8} {interval duration : UInt32}
    (parsed : TimerJson.parseFromATString text = some (gmt, interval, duration)) :
    interval ≠ 0 := by
  unfold TimerJson.parseFromATString at parsed
  split at parsed
  · cases parsed
  · split at parsed
    · cases parsed
    · split at parsed
      · cases parsed
      · dsimp only at parsed
        split at parsed
        · split at parsed
          · cases parsed
          · rename_i positive
            cases parsed
            exact positive
        · split at parsed
          · cases parsed
          · rename_i positive
            cases parsed
            exact positive

/-- Of the timer an action changes nothing but the texts. -/
theorem action_keeps (done : getTimerAction print timed item = .ok (some timer)) :
    timer = { timed with timeAction := timer.timeAction } := by
  unfold getTimerAction at done
  split at done
  · split at done
    · cases done
    · rcases bind_ok_iff.1 done with ⟨stored, store, later⟩
      rcases store_action_parts store with ⟨-, rfl⟩
      cases later
      rfl
  · split at done
    · split at done
      · cases done
      · rcases bind_ok_iff.1 done with ⟨started, first, later⟩
        rcases bind_ok_iff.1 later with ⟨stored, second, last⟩
        rcases store_action_parts first with ⟨-, rfl⟩
        rcases store_action_parts second with ⟨-, rfl⟩
        cases last
        rfl
    · cases done

/-- The interval and the duration of a timer are those of its text. -/
theorem timing_parsed {behind text : List UInt8} {typed : IotgoTimer}
    (timing : getTiming behind typed text = .ok (some timed)) (duration : timed.type = .duration) :
    ∃ gmt, TimerJson.parseFromATString text = some (gmt, timed.timeInterval, timed.timeDuration) := by
  have kept := get_timing_keeps timing
  rw [kept.type] at duration
  unfold getTiming at timing
  rw [duration] at timing
  rcases Option.bind_eq_some_iff.1 (Except.ok.inj timing) with
    ⟨⟨gmt, interval, length⟩, parsed, set⟩
  rcases Option.map_eq_some_iff.1 set with ⟨time, -, rfl⟩
  exact ⟨gmt, parsed⟩

theorem origin_parsed (origin : Origin print item timer) (duration : timer.type = .duration) :
    member item "type" = some (.string (asciiBytes "duration")) ∧
      ∃ text gmt, member item "at" = some (.string text) ∧
        TimerJson.parseFromATString text = some (gmt, timer.timeInterval, timer.timeDuration) := by
  rcases origin with ⟨behind, generated, made, same⟩
  have type : generated.type = .duration := by
    rw [same] at duration
    exact duration
  rcases generated_members made with ⟨-, -, ⟨name, named, known⟩, -, -⟩
  rcases generate_timer_parts made with ⟨typed, timed, -, timing, done⟩
  rcases get_timer_at_parts timing with ⟨memory, found, -, set⟩
  have kept := action_keeps done
  have type' : timed.type = .duration := by
    rw [kept] at type
    exact type
  rcases timing_parsed set type' with ⟨gmt, parsed⟩
  rw [type] at known
  cases known
  refine ⟨named, cString memory, gmt, ?_, ?_⟩
  · rw [member, found]
    rfl
  · rw [parsed, same, kept]

/-- A duration timer that is made from an object has an interval. -/
theorem origin_interval (origin : Origin print item timer) (duration : timer.type = .duration) :
    timer.timeInterval ≠ 0 := by
  rcases origin_parsed origin duration with ⟨-, text, gmt, -, parsed⟩
  exact parsed_interval parsed

theorem duration_compare_divides {unset : Int} {now gmt : IoTgoGMTTime}
    {timeInterval timeDuration : UInt32}
    (divides : durationCompareWithNow unset now gmt timeInterval timeDuration = none) :
    timeInterval = 0 := by
  unfold durationCompareWithNow at divides
  dsimp only at divides
  split_ifs at divides with _ _ _ zero
  exact zero

/-- A timer with a duration has an interval. -/
def Lasting (timer : IotgoTimer) : Prop :=
  timer.type = .duration → timer.timeInterval ≠ 0

def AllLasting (table : TimerTable) : Prop :=
  ∀ slot, Lasting (table.timer slot)

theorem zero_lasting : Lasting .zero :=
  fun duration => IoTgoTimerType.noConfusion duration

theorem made_lasting (made : Made print timer) : Lasting timer := by
  rcases made with ⟨item, origin⟩
  exact origin_interval origin

theorem lasting_faults {unset : Int} {now : IoTgoGMTTime} (lasting : Lasting timer) :
    faults unset now timer = false := by
  by_contra divides
  rw [Bool.not_eq_false, faults, decide_eq_true_eq] at divides
  exact lasting divides.2.1 (duration_compare_divides divides.2.2)

theorem lasting_divides_never {table : TimerTable} (lasting : AllLasting table) (unset : Int)
    (now : IoTgoGMTTime) :
    ∃ after actions, timerDealTime unset now table = some (after, actions) :=
  deal_time_ends_iff.2 fun slot => lasting_faults (lasting slot)

theorem follows_divides_never {state : ManagerState} (follows : FollowsConfig print state)
    (unset : Int) (now : IoTgoGMTTime) :
    ∃ table actions, timerDealTime unset now state.timers.table = some (table, actions) := by
  apply deal_time_ends_iff.2
  intro slot
  by_contra divides
  rw [Bool.not_eq_false, faults, decide_eq_true_eq] at divides
  obtain ⟨used, duration, zero⟩ := divides
  have id : state.timers.table.timerId slot ≠ 0 := by
    simp only [active, decide_eq_true_eq] at used
    rw [← follows.table.timers slot]
    exact used.1
  have here := follows.timers slot
  rw [view, if_neg id] at here
  generalize state.config slot = configured at here
  cases here with
  | some origin => exact origin_interval origin duration (duration_compare_divides zero)

/-- The timers in RAM and those that would be loaded have intervals. -/
structure Lasts (timers : TimerState) : Prop where
  table : AllLasting timers.table
  loaded : ∀ table, loadedTable timers.flash = some table → AllLasting table

theorem load_lasts {timers : TimerState} (lasts : Lasts timers) (memory : BlockMemory) :
    Lasts (timerLoadFromFlash memory timers) := by
  cases granted : memory.block with
  | false =>
      rw [load_refused granted]
      exact lasts
  | true =>
      rw [timerLoadFromFlash, granted, if_pos rfl]
      cases loaded : loadedTable timers.flash with
      | some table => exact ⟨lasts.loaded table loaded, lasts.loaded⟩
      | none =>
          cases erased : memory.erase with
          | false => exact lasts
          | true =>
              refine ⟨fun _ => zero_lasting, fun table again => ?_⟩
              have empty : TimerTable.zero = table :=
                Option.some.inj ((loaded_erased timers).symm.trans again)
              rw [← empty]
              exact fun _ => zero_lasting

theorem save_lasts {timers : TimerState} (lasts : Lasts timers) (memory : Bool) :
    Lasts (timerSaveToFlash memory timers) := by
  cases memory with
  | false => exact lasts
  | true =>
      refine ⟨lasts.table, fun table again => ?_⟩
      have same : timers.table = table :=
        Option.some.inj ((loaded_saved timers).symm.trans again)
      rw [← same]
      exact lasts.table

theorem requested_lasts {world : TimerWorld} {timers : TimerState}
    {done : TimerState × TimerReply} (lasts : Lasts timers)
    (requested : Requested world timers done) : Lasts done.1 := by
  rcases requested with same | ⟨request, made, answered⟩
  · rw [same]
    exact lasts
  · rcases request_leaves answered with same | ⟨left, leaves, ended⟩
    · rw [same]
      exact lasts
    · have brought : AllLasting left := by
        refine leaves_holds zero_lasting (fun _ _ lasting => lasting) (fun _ _ lasting => lasting)
          ?_ lasts.table leaves
        exact fun timer member => made_lasting (made timer member)
      rcases ended with same | same
      · rw [same]
        exact @save_lasts { timers with table := TimerTable.nextVer left } ⟨brought, lasts.loaded⟩ _
      · rw [same]
        exact @load_lasts { timers with table := left } ⟨brought, lasts.loaded⟩ _

theorem disarmed_lasting (now : IoTgoGMTTime) (lasting : Lasting timer) :
    Lasting (disarmed now timer) := by
  unfold disarmed
  split
  · exact lasting
  · exact lasting

theorem step_lasts (state : ManagerState) (event : ManagerEvent) (next : ManagerState)
    (lasts : Lasts state.timers) (taken : ManagerStep print state event next) :
    Lasts next.timers := by
  cases event with
  | update world cjsonParams =>
      rcases taken with ⟨-, reply, ended, -⟩
      exact requested_lasts lasts (timer_proc_update_requested ended)
  | second unset now =>
      rcases taken with ⟨⟨table, actions, dealt, same⟩, -⟩
      rw [same, deal_time_disarms dealt]
      exact ⟨fun slot => disarmed_lasting now (lasts.table slot), lasts.loaded⟩
  | restart memory =>
      rw [taken]
      exact @load_lasts ⟨.zero, state.timers.flash⟩ ⟨fun _ => zero_lasting, lasts.loaded⟩ memory

theorem init_lasts {flash : Flash} {table : TimerTable} (loaded : loadedTable flash = some table)
    (lasting : AllLasting table) (memory : BlockMemory) : Lasts (timerInit memory flash) := by
  refine @load_lasts ⟨.zero, flash⟩ ⟨fun _ => zero_lasting, fun other again => ?_⟩ memory
  rw [← Option.some.inj (loaded.symm.trans again)]
  exact lasting

theorem started_lasts {condition : ManagerState → ManagerEvent → Prop} {start : ManagerState}
    (started : Started print condition start) : Lasts start.timers := by
  induction started with
  | erased state =>
      have loaded := loaded_erased state
      generalize (timerFlashErase true state).flash = flash at loaded ⊢
      exact init_lasts loaded (fun _ => zero_lasting) .granted
  | @saved start state before events _ _ run ih =>
      have reached := run_keeps (fun state => Lasts state.timers) step_lasts ih run
      exact init_lasts (loaded_saved ⟨state.timers.table, before⟩) reached.table .granted

end Timers

section Objects

/-- What `procOneTimer` has checked of an object that divides by its interval. -/
structure Guarded (object : IoTgoTimeObject) : Prop where
  interval : object.type = .interval → object.timeInterval ≠ 0
  duration : object.type = .intervalDuration ∨ object.type = .intervalDurationStartEnd →
    object.timeInterval ≠ 0 ∧ object.timeDuration ≠ 0

/-- The objects of the list that are used. -/
def AllGuarded (list : TimeObjectList) : Prop :=
  ∀ index, (list index).used = true → Guarded (list index)

variable {list : TimeObjectList} {object : IoTgoTimeObject}

theorem guarded_update (guarded : AllGuarded list) (index : Fin TimeObjects.iotgoDeviceTimerMax)
    (object : IoTgoTimeObject) (fresh : object.used = true → Guarded object) :
    AllGuarded (Function.update list index object) := by
  intro other used
  by_cases same : other = index
  · subst same
    rw [Function.update_self] at used ⊢
    exact fresh used
  · rw [Function.update_of_ne same] at used ⊢
    exact guarded other used

theorem guarded_added (guarded : AllGuarded list) (fresh : Guarded object) :
    AllGuarded (addOneTimeObject list object) := by
  unfold addOneTimeObject
  split
  · exact guarded_update guarded _ _ fun _ => ⟨fresh.interval, fresh.duration⟩
  · exact guarded

theorem guarded_gmt (guarded : AllGuarded list) (around : Surroundings) (enabled : Bool)
    (gmtStr ptr : List UInt8) :
    AllGuarded (addTimeObjectByGMTString around list enabled gmtStr ptr) := by
  unfold addTimeObjectByGMTString
  split
  · exact guarded
  · split
    · apply guarded_added guarded
      exact ⟨IoTgoTimerType.noConfusion, fun other => by simp at other⟩
    · exact guarded

theorem guarded_cron (guarded : AllGuarded list) {around : Surroundings} {enabled : Bool}
    {cronStr ptr : List UInt8} {next : TimeObjectList}
    (added : addTimeObjectByCronString around list enabled cronStr ptr = .ok next) :
    AllGuarded next := by
  rcases bind_ok_iff.1 added with ⟨parsed, -, later⟩
  cases parsed with
  | none =>
      cases later
      exact guarded
  | some cron =>
      dsimp only at later
      split at later
      · cases later
        apply guarded_added guarded
        exact ⟨IoTgoTimerType.noConfusion, fun other => by simp at other⟩
      · cases later
        exact guarded

theorem guarded_interval (guarded : AllGuarded list) (around : Surroundings) (enabled : Bool)
    (gmtStr ptr : List UInt8) {interval : UInt32} (positive : 0 < interval) :
    AllGuarded (addTimeObjectInterval around list enabled gmtStr interval ptr) := by
  unfold addTimeObjectInterval
  split
  · exact guarded
  · split
    · apply guarded_added guarded
      exact ⟨fun _ => (UInt32.ne_of_lt positive).symm, fun other => by simp at other⟩
    · exact guarded

/-- A duration that is less than the interval, and not 0. -/
theorem lengths_guarded {interval duration : UInt32} (shorter : 0 < duration ∧ duration < interval) :
    interval ≠ 0 ∧ duration ≠ 0 :=
  ⟨(UInt32.ne_of_lt (UInt32.lt_trans shorter.1 shorter.2)).symm, (UInt32.ne_of_lt shorter.1).symm⟩

/-- Both functions that add a timer with a duration. -/
theorem guarded_shorter (guarded : AllGuarded list) (around : Surroundings) (enabled : Bool)
    (gmtStr ptr pStartDo pEndDo : List UInt8) {interval duration : UInt32}
    (shorter : 0 < duration ∧ duration < interval) :
    AllGuarded
        (addTimeObjectIntervalDuration around list enabled gmtStr interval duration ptr) ∧
      AllGuarded (addTimeObjectDurationStartEnd around list enabled gmtStr interval duration
        pStartDo pEndDo) := by
  have longer : ¬interval ≤ duration := UInt32.not_le.2 shorter.2
  rw [addTimeObjectIntervalDuration, addTimeObjectDurationStartEnd, if_neg longer, if_neg longer]
  cases parseGMTTimeFromString gmtStr with
  | none => exact ⟨guarded, guarded⟩
  | some gmt =>
      cases around.memory with
      | false => exact ⟨guarded, guarded⟩
      | true =>
          constructor
          · apply guarded_added guarded
            exact ⟨IoTgoTimerType.noConfusion, fun _ => lengths_guarded shorter⟩
          · apply guarded_added guarded
            exact ⟨IoTgoTimerType.noConfusion, fun _ => lengths_guarded shorter⟩

theorem guarded_deleted (list : TimeObjectList) : AllGuarded (deleteAllTimeObject list) := by
  intro index used
  unfold deleteAllTimeObject at used ⊢
  split at used
  · cases used
  · rename_i unused
    exact absurd used unused

theorem guarded_proc_duration (guarded : AllGuarded list) {around : Surroundings} {enabled : Bool}
    {fields : TimeObjects.TimerFields} {timerAt : List UInt8} {next : TimeObjectList}
    {result : Option Bool}
    (done : procDuration around list enabled fields timerAt = .ok (next, result)) :
    AllGuarded next := by
  rcases bind_ok_iff.1 done with ⟨parsed, -, later⟩
  cases parsed with
  | none =>
      cases later
      exact guarded
  | some parsed =>
      obtain ⟨gmt, interval, duration⟩ := parsed
      dsimp only at later
      split at later
      · rename_i whole
        cases later
        exact guarded_interval guarded around enabled gmt _ whole.2.1
      · split at later
        · rename_i shorter
          split at later
          · cases later
            exact (guarded_shorter guarded around enabled gmt _ [] [] shorter).1
          · split at later
            · cases later
              exact (guarded_shorter guarded around enabled gmt [] _ _ shorter).2
            · cases later
              exact guarded
        · cases later
          exact guarded

/-- What is added divides by no zero. -/
theorem guarded_proc (guarded : AllGuarded list) {around : Surroundings} {tokens : List JsonToken}
    {next : TimeObjectList} {result : Option Bool}
    (done : procOneTimer around list tokens = .ok (next, result)) : AllGuarded next := by
  unfold procOneTimer at done
  dsimp only at done
  split at done
  · split at done
    · split at done
      · cases done
        exact guarded_gmt guarded around _ _ _
      · split at done
        · rcases bind_ok_iff.1 done with ⟨after, added, last⟩
          cases last
          exact guarded_cron guarded added
        · split at done
          · exact guarded_proc_duration guarded done
          · cases done
            exact guarded
    · cases done
      exact guarded_deleted list
  · cases done
    exact guarded_deleted list

theorem diff_compare_guarded (diff : IoTgoMinuteDiff) {timeInterval timeDuration : UInt32}
    (guards : timeInterval ≠ 0 ∧ timeDuration ≠ 0) :
    ∃ duration, diffCompare diff timeInterval timeDuration = some duration := by
  unfold diffCompare
  dsimp only
  rw [if_neg guards.1]
  split
  · exact ⟨_, rfl⟩
  · rw [if_neg guards.2]
    split
    · exact ⟨_, rfl⟩
    · exact ⟨_, rfl⟩

/-- A turn for a guarded object divides by no zero, and leaves a guarded one. -/
theorem monitor_guarded (unset : Int) (now : IoTgoGMTTime)
    (guarded : object.used = true → Guarded object) :
    ∃ left calls, monitorObject unset now object = some (left, calls) ∧
      (left.used = true → Guarded left) := by
  unfold monitorObject
  by_cases idle : object.used = false ∨ object.enabled = false
  · rw [if_pos idle]
    exact ⟨object, [], rfl, guarded⟩
  · rw [if_neg idle]
    rw [not_or, Bool.not_eq_false] at idle
    have guards := guarded idle.1
    have measured : Guarded { object with diffTimer := minuteDiff unset now object.gmt } :=
      ⟨guards.interval, guards.duration⟩
    dsimp only
    cases kind : object.type with
    | invalid => exact ⟨object, [], rfl, fun _ => guards⟩
    | gmt =>
        dsimp only
        split
        · exact ⟨_, _, rfl, fun used => by cases used⟩
        · exact ⟨object, [], rfl, fun _ => guards⟩
    | cron =>
        dsimp only
        split
        · exact ⟨object, _, rfl, fun _ => guards⟩
        · exact ⟨object, [], rfl, fun _ => guards⟩
    | interval =>
        dsimp only
        rw [kind] at measured
        rw [if_neg (guards.interval kind)]
        split
        · exact ⟨_, _, rfl, fun _ => measured⟩
        · exact ⟨_, _, rfl, fun _ => measured⟩
    | intervalDuration =>
        rcases diff_compare_guarded (minuteDiff unset now object.gmt)
          (guards.duration (.inl kind)) with ⟨duration, compared⟩
        rw [kind] at measured
        dsimp only
        rw [compared]
        cases duration with
        | begins => exact ⟨_, _, rfl, fun _ => measured⟩
        | ends => exact ⟨_, _, rfl, fun _ => measured⟩
        | neither => exact ⟨_, _, rfl, fun _ => measured⟩
    | intervalDurationStartEnd =>
        rcases diff_compare_guarded (minuteDiff unset now object.gmt)
          (guards.duration (.inr kind)) with ⟨duration, compared⟩
        rw [kind] at measured
        dsimp only
        rw [compared]
        cases duration with
        | begins => exact ⟨_, _, rfl, fun _ => measured⟩
        | ends => exact ⟨_, _, rfl, fun _ => measured⟩
        | neither => exact ⟨_, _, rfl, fun _ => measured⟩

theorem monitor_objects_guarded (unset : Int) (now : IoTgoGMTTime)
    (slots : List (Fin TimeObjects.iotgoDeviceTimerMax)) (guarded : AllGuarded list)
    (calls : List Call) :
    ∃ after called, monitorObjects unset now slots list calls = some (after, called) ∧
      AllGuarded after := by
  induction slots generalizing list calls with
  | nil => exact ⟨list, calls, rfl, guarded⟩
  | cons index rest ih =>
      rcases monitor_guarded unset now (guarded index) with ⟨left, called, turn, kept⟩
      rw [monitorObjects, turn]
      exact ih (guarded_update guarded index left kept) (calls ++ called)

theorem monitor_callback_guarded (unset : Int) (now : IoTgoGMTTime) (guarded : AllGuarded list) :
    ∃ after calls, timerMonitorCallback unset now list = some (after, calls) ∧
      AllGuarded after :=
  monitor_objects_guarded unset now _ guarded []

theorem object_step_guarded (list : TimeObjectList) (event : ObjectEvent) (next : TimeObjectList)
    (guarded : AllGuarded list) (taken : ObjectStep list event next) : AllGuarded next := by
  cases event with
  | procOneTimer around tokens =>
      rcases taken with ⟨result, done⟩
      exact guarded_proc guarded done
  | monitor unset now =>
      rcases taken with ⟨calls, called⟩
      rcases monitor_callback_guarded unset now guarded with ⟨after, calls', done, kept⟩
      rw [done] at called
      cases called
      exact kept
  | stopTimerMonitor =>
      rw [taken]
      exact guarded_deleted list

end Objects

/-- Whatever updates, seconds and restarts there are, `timerDealTime` divides by no zero, and
whatever timers the server sends, neither does `timerMonitorCallback`. -/
theorem divides_never {print : CJsonItem → List UInt8} {start : ManagerState}
    (started : Started print (fun _ _ => True) start) (events : List ManagerEvent)
    (objectEvents : List ObjectEvent) :
    Keeps (ManagerStep print)
        (fun state => ∀ unset now, ∃ table actions,
          timerDealTime unset now state.timers.table = some (table, actions)) start events ∧
      Keeps ObjectStep
        (fun list => ∀ unset now, ∃ after calls,
          timerMonitorCallback unset now list = some (after, calls)) noTimeObjects objectEvents := by
  have lasts : Keeps (ManagerStep print) (fun state => Lasts state.timers) start events :=
    keeps_always step_lasts (started_lasts started) events
  have empty : AllGuarded noTimeObjects := fun index used => by cases used
  have guarded : Keeps ObjectStep AllGuarded noTimeObjects objectEvents :=
    keeps_always object_step_guarded empty objectEvents
  constructor
  · exact keeps_mono (fun state lasts => lasting_divides_never lasts.table) lasts
  · apply keeps_mono _ guarded
    intro list kept unset now
    rcases monitor_callback_guarded unset now kept with ⟨after, calls, done, -⟩
    exact ⟨after, calls, done⟩

section Examples

/-- Nine minutes in every hour, from 8:00 on, with one action. -/
def hourlyDo : CJsonItem :=
  .object [(asciiBytes "id", .number 0 0), (asciiBytes "enabled", .number 1 1),
    (asciiBytes "type", .string (asciiBytes "duration")),
    (asciiBytes "at", .string (asciiBytes "2016-01-01T08:00:00.000Z 60 9")),
    (asciiBytes "do", .object [(asciiBytes "switch", .string (asciiBytes "on"))])]

def quietWorld : TimerWorld where
  memory := .granted
  parse _ := none
  print _ := asciiBytes "\x7b\x7d"
  behind _ := []
  stray _ := 0
  strayTimer _ := .zero

def addHourly : CJsonItem :=
  .object [(asciiBytes "timerAct", .string (asciiBytes "new")),
    (asciiBytes "timer", .array [hourlyDo])]

/-- The elements of the timer in an array that the server sends. -/
def hourlyTokens : List JsonToken :=
  reported (.object [(asciiBytes "enabled", Json.number 1), (asciiBytes "type", .string (asciiBytes "duration")),
    (asciiBytes "at", .string (asciiBytes "2016-01-01T08:00:00.000Z 60 9")),
    (asciiBytes "do", .object [(asciiBytes "switch", .string (asciiBytes "on"))])])

/-- The timer is added on both sides, the clock goes to the end of its duration, and the
device starts again without memory. -/
theorem divides_never_hourly :
    Keeps (ManagerStep quietWorld.print)
        (fun state => ∀ unset now, ∃ table actions,
          timerDealTime unset now state.timers.table = some (table, actions))
        ⟨timerInit .granted (timerFlashErase true ⟨.zero, fun _ => 0xFF⟩).flash, fun _ => none⟩
        [.update quietWorld addHourly, .second 0 ⟨2016, 1, 1, 8, 9, 0⟩, .restart ⟨false, false⟩] ∧
      Keeps ObjectStep
        (fun list => ∀ unset now, ∃ after calls,
          timerMonitorCallback unset now list = some (after, calls)) noTimeObjects
        [.procOneTimer ⟨deletedTimeObject, [], true⟩ hourlyTokens,
          .monitor 0 ⟨2016, 1, 1, 8, 9, 0⟩] :=
  divides_never (.erased _) _ _

end Examples

end IotgoFirmware.Timers.IntervalGuards
