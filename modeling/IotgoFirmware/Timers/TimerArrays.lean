import IotgoFirmware.Library.SlotTables
import IotgoFirmware.Timers.TimersAlone

/-!
# The timers array of a message

`jsonIoTgoProcTimers` removes the timers that there are and adds those of the array one by
one. A function that adds one may fail without a word, and of what refuses a timer only missing
fields remove the timers added before it.
-/

namespace IotgoFirmware.Timers.TimerArrays

open IotgoFirmware.Library.CFaults
open IotgoFirmware.Library.CStrings
open IotgoFirmware.Library.CollectingReads
open IotgoFirmware.Library.JsonDocuments
open IotgoFirmware.Library.SlotTables
open IotgoFirmware.Timers.TimeObjects
open IotgoFirmware.Timers.TimerClock
open IotgoFirmware.Timers.TimerJson (parseGMTTimeFromString parseCronFromString)
open IotgoFirmware.Timers.TimerMonitor
open IotgoFirmware.Timers.TimerOffers
open IotgoFirmware.Timers.TimerReadings
open IotgoFirmware.Timers.TimersAlone

set_option autoImplicit false

section Code

/-- What a call of `procOneTimer` finds; `unreturned` is what its caller reads where it comes to
its end without a `return`. -/
structure CallSite where
  around : Surroundings
  unreturned : Bool

variable (sites : Nat → CallSite)

/-- The loop over the array behind some calls; `skip` elements are consumed already. -/
def procTimers : Nat → Nat → TimeObjectList → List JsonToken → Checked (TimeObjectList × Bool)
  | _, _, list, [] => .ok (list, false)
  | calls, skip + 1, list, _ :: rest => procTimers calls skip list rest
  | _, 0, list, .arrayEnd :: _ => .ok (list, true)
  | _, 0, list, .failed :: _ => .ok (list, false)
  | calls, 0, list, .object :: rest => do
      let (next, result) ← procOneTimer (sites calls).around list rest
      if result.getD (sites calls).unreturned then
        procTimers (calls + 1) (scanConsumed .timer 0 .initial rest) next rest
      else return (next, false)
  | calls, 0, list, _ :: rest => procTimers calls 0 list rest

def jsonIoTgoProcTimers (list : TimeObjectList) (tokens : List JsonToken) :
    Checked (TimeObjectList × Bool) :=
  match tokens with
  | .pair :: .array :: rest => procTimers sites 0 0 (deleteAllTimeObject list) rest
  | .pair :: .number _ :: _ => .ok (deleteAllTimeObject list, true)
  | _ => .ok (list, false)

end Code

section Calls

/-- What a call of `procOneTimer` comes to: fields are missing, the timer is refused, or it
passes, and an object is made of it or not. -/
inductive Verdict where
  | lost
  | refused
  | passed (made : Option IoTgoTimeObject)

def usedObjects (list : TimeObjectList) : List IoTgoTimeObject :=
  usedEntries IoTgoTimeObject.used list

/-- The verdict on the elements, told from what they add to an empty list. -/
def timerVerdict (site : CallSite) (tokens : List JsonToken) : Checked Verdict :=
  if accepted (scanTimer .timer 0 .initial tokens) then do
    let (list, result) ← procOneTimer site.around noTimeObjects tokens
    return if result.getD site.unreturned then .passed (usedObjects list).head? else .refused
  else .ok .lost

/-- The verdicts on an array if none of them ends it, and whether its end is found. -/
def callVerdicts (sites : Nat → CallSite) :
    Nat → Nat → List JsonToken → List (Checked Verdict) × Bool
  | _, _, [] => ([], false)
  | calls, skip + 1, _ :: rest => callVerdicts sites calls skip rest
  | _, 0, .arrayEnd :: _ => ([], true)
  | _, 0, .failed :: _ => ([], false)
  | calls, 0, .object :: rest =>
      let later := callVerdicts sites (calls + 1) (scanConsumed .timer 0 .initial rest) rest
      (timerVerdict (sites calls) rest :: later.1, later.2)
  | calls, 0, _ :: rest => callVerdicts sites calls 0 rest

def addMade (list : TimeObjectList) : Option IoTgoTimeObject → TimeObjectList
  | none => list
  | some object => addOneTimeObject list object

def Verdict.apply (list : TimeObjectList) : Verdict → TimeObjectList × Bool
  | .lost => (deleteAllTimeObject list, false)
  | .refused => (list, false)
  | .passed made => (addMade list made, true)

/-- The verdicts in their order, up to the first that is false. -/
def runVerdicts (closed : Bool) :
    TimeObjectList → List (Checked Verdict) → Checked (TimeObjectList × Bool)
  | list, [] => .ok (list, closed)
  | list, verdict :: rest => do
      let (next, goesOn) := (← verdict).apply list
      if goesOn then runVerdicts closed next rest else return (next, false)

end Calls

section Adders

theorem made_of_empty (made : Option IoTgoTimeObject) (list : TimeObjectList) :
    addMade list (usedObjects (addMade noTimeObjects made)).head? = addMade list made := by
  cases made <;> rfl

/-- A fault, or an addition and a result, whatever the list is; only a timer that passes is
added. -/
def Uniform (add : TimeObjectList → Checked (TimeObjectList × Option Bool)) : Prop :=
  (∃ fault, ∀ list, add list = .error fault) ∨
    ∃ made result, (∀ list, add list = .ok (addMade list made, result)) ∧
      (result = some true ∨ made = none)

theorem uniform_added {add : TimeObjectList → TimeObjectList}
    (adds : ∃ made, ∀ list, add list = addMade list made) :
    Uniform fun list => .ok (add list, some true) := by
  obtain ⟨made, adds⟩ := adds
  exact .inr ⟨made, some true,
    fun list => congrArg (fun next => Except.ok (next, some true)) (adds list), .inl rfl⟩

theorem uniform_kept (result : Option Bool) : Uniform fun list => .ok (list, result) :=
  .inr ⟨none, result, fun _ => rfl, .inr rfl⟩

variable (around : Surroundings) (enabled : Bool)

theorem object_at_adds (gmtStr : List UInt8) (object : IoTgoGMTTime → IoTgoTimeObject) :
    ∃ made, ∀ list,
      (match parseGMTTimeFromString gmtStr with
        | none => list
        | some gmt => if around.memory then addOneTimeObject list (object gmt) else list) =
        addMade list made := by
  cases parseGMTTimeFromString gmtStr with
  | none => exact ⟨none, fun _ => rfl⟩
  | some gmt =>
      cases around.memory with
      | false => exact ⟨none, fun _ => rfl⟩
      | true => exact ⟨some (object gmt), fun _ => rfl⟩

theorem gmt_adds (gmtStr ptr : List UInt8) :
    ∃ made, ∀ list, addTimeObjectByGMTString around list enabled gmtStr ptr = addMade list made :=
  object_at_adds around gmtStr _

theorem cron_uniform (cronStr ptr : List UInt8) :
    Uniform fun list => do
      return (← addTimeObjectByCronString around list enabled cronStr ptr, some true) := by
  unfold addTimeObjectByCronString
  cases parseCronFromString (cronStr ++ 0 :: around.behind) with
  | error fault => exact .inl ⟨fault, fun _ => rfl⟩
  | ok parsed =>
      cases parsed with
      | none => exact uniform_kept (some true)
      | some cron =>
          cases around.memory with
          | false => exact uniform_kept (some true)
          | true => exact .inr ⟨some _, some true, fun _ => rfl, .inl rfl⟩

theorem interval_adds (gmtStr : List UInt8) (interval : UInt32) (ptr : List UInt8) :
    ∃ made, ∀ list, addTimeObjectInterval around list enabled gmtStr interval ptr =
      addMade list made :=
  object_at_adds around gmtStr _

theorem duration_adds (gmtStr : List UInt8) (interval duration : UInt32) (ptr : List UInt8) :
    ∃ made, ∀ list, addTimeObjectIntervalDuration around list enabled gmtStr interval duration ptr =
      addMade list made := by
  unfold addTimeObjectIntervalDuration
  by_cases short : interval ≤ duration
  · exact ⟨none, fun _ => if_pos short⟩
  · simp only [if_neg short]
    exact object_at_adds around gmtStr _

theorem start_end_adds (gmtStr : List UInt8) (interval duration : UInt32)
    (pStartDo pEndDo : List UInt8) :
    ∃ made, ∀ list, addTimeObjectDurationStartEnd around list enabled gmtStr interval duration
      pStartDo pEndDo = addMade list made := by
  unfold addTimeObjectDurationStartEnd
  by_cases short : interval ≤ duration
  · exact ⟨none, fun _ => if_pos short⟩
  · simp only [if_neg short]
    exact object_at_adds around gmtStr _

theorem duration_uniform (fields : TimerFields) (timerAt : List UInt8) :
    Uniform fun list => procDuration around list enabled fields timerAt := by
  unfold procDuration
  cases parseFromATString timerAt with
  | error fault => exact .inl ⟨fault, fun _ => rfl⟩
  | ok parsed =>
      cases parsed with
      | none => exact uniform_kept (some false)
      | some parsed =>
          obtain ⟨gmt, interval, duration⟩ := parsed
          simp only [bind_ok]
          split
          · exact uniform_added (interval_adds around enabled gmt interval _)
          · split
            · split
              · exact uniform_added
                  (duration_adds around enabled gmt interval duration _)
              · split
                · exact uniform_added
                    (start_end_adds around enabled gmt interval duration _ _)
                · exact uniform_kept none
            · exact uniform_kept (some false)

theorem proc_uniform {tokens : List JsonToken}
    (passes : accepted (scanTimer .timer 0 .initial tokens) = true) :
    Uniform fun list => procOneTimer around list tokens := by
  unfold procOneTimer
  simp only [accepted, Bool.and_eq_true, Bool.or_eq_true, or_assoc] at passes
  obtain ⟨⟨⟨hasEnabled, hasType⟩, hasAt⟩, actions⟩ := passes
  obtain ⟨value, enabled⟩ := Option.isSome_iff_exists.1 hasEnabled
  obtain ⟨type, typed⟩ := Option.isSome_iff_exists.1 hasType
  obtain ⟨timerAt, timed⟩ := Option.isSome_iff_exists.1 hasAt
  simp only [enabled, typed, timed, if_pos actions]
  split
  · exact uniform_added (gmt_adds around _ timerAt _)
  · split
    · exact cron_uniform around _ timerAt _
    · split
      · exact duration_uniform around _ _ timerAt
      · exact uniform_kept none

end Adders

section Verdicts

variable (site : CallSite) (sites : Nat → CallSite)

theorem proc_verdict (list : TimeObjectList) (tokens : List JsonToken) :
    (do
      let (next, result) ← procOneTimer site.around list tokens
      return (next, result.getD site.unreturned)) =
      (do return (← timerVerdict site tokens).apply list) := by
  unfold timerVerdict
  by_cases passes : accepted (scanTimer .timer 0 .initial tokens) = true
  · have uniform := proc_uniform site.around passes
    dsimp only [Uniform] at uniform
    rw [if_pos passes]
    rcases uniform with ⟨fault, faults⟩ | ⟨made, result, adds, checked⟩
    · rw [faults, faults]
      rfl
    · rw [adds, adds]
      simp only [bind_ok, pure, Except.pure, Except.ok.injEq]
      rcases checked with rfl | rfl
      · exact congrArg (·, true) (made_of_empty made list).symm
      · cases result.getD site.unreturned <;> rfl
  · rw [if_neg passes, proc_one_timer_refuses _ _ (Bool.eq_false_iff.2 passes)]
    rfl

theorem proc_continues (list : TimeObjectList) (tokens : List JsonToken)
    (loop : TimeObjectList → Checked (TimeObjectList × Bool)) :
    (do
      let (next, result) ← procOneTimer site.around list tokens
      if result.getD site.unreturned then loop next else return (next, false)) =
      (do
        let (next, goesOn) := (← timerVerdict site tokens).apply list
        if goesOn then loop next else return (next, false)) := by
  have same := congrArg (fun run => run >>= fun (next, goesOn) =>
    if goesOn then loop next else return (next, false)) (proc_verdict site list tokens)
  simpa only [bind_assoc, pure_bind] using same

theorem proc_timers_run (calls skip : Nat) (list : TimeObjectList) (tokens : List JsonToken) :
    procTimers sites calls skip list tokens =
      runVerdicts (callVerdicts sites calls skip tokens).2 list
        (callVerdicts sites calls skip tokens).1 := by
  induction tokens generalizing calls skip list with
  | nil => cases skip <;> rfl
  | cons token rest ih =>
      cases skip with
      | succ skip => exact ih calls skip list
      | zero =>
          cases token with
          | arrayEnd => rfl
          | failed => rfl
          | object =>
              have called := proc_continues (sites calls) list rest fun next =>
                procTimers sites (calls + 1) (scanConsumed .timer 0 .initial rest) next rest
              simp only [ih] at called
              rw [procTimers]
              simp only [ih]
              exact called
          | _ => exact ih calls 0 list

end Verdicts

section Updates

/-- The verdict lets the loop over the array go on. -/
def goesOn : Checked Verdict → Bool
  | .ok (.passed _) => true
  | _ => false

/-- The object of the list that comes of a verdict. -/
def madeBy : Checked Verdict → Option IoTgoTimeObject
  | .ok (.passed (some object)) => some { object with used := true }
  | _ => none

/-- The objects that are made before the loop ends. -/
def madeObjects (verdicts : List (Checked Verdict)) : List IoTgoTimeObject :=
  (verdicts.takeWhile goesOn).filterMap madeBy

/-- The verdict at which the loop ends, if one does end it. -/
def lastVerdict (verdicts : List (Checked Verdict)) : Option (Checked Verdict) :=
  verdicts.find? fun verdict => !goesOn verdict

/-- An object that `procOneTimer` makes of a text with these fields. -/
def MadeOf (fields : TimerFields) (object : IoTgoTimeObject) : Prop :=
  ∃ site tokens, scanTimer .timer 0 .initial tokens = fields ∧
    timerVerdict site tokens = .ok (.passed (some object))

/-- The object is that of a timer with the values of these members. -/
def ScheduledAs (members : Members) (object : IoTgoTimeObject) : Prop :=
  ∃ values, (∀ value ∈ values, Gives members value) ∧ HasSchedule (· ∈ values) ∧
    HasActions (· ∈ values) ∧ MadeOf (timerCollector.after .initial values) object

/-- The objects are those of the timers, one for each. -/
def Scheduled (timers : List Members) (objects : List IoTgoTimeObject) : Prop :=
  ∃ order, order.Perm objects ∧ List.Forall₂ ScheduledAs timers order

/-- All timers are scheduled and nothing else is, or no timer is; and nothing is written
outside an array. -/
def AllOrNothing (timers : List Members) (outcome : Checked (TimeObjectList × Bool)) : Prop :=
  ∃ next result, outcome = .ok (next, result) ∧
    if result then Scheduled timers (usedObjects next) else usedObjects next = []

/-- What the verdicts on an array have to be: the one that ends the loop finds fields missing, or
it refuses a timer where nothing is made before. Where none does, the end of the array is found,
and the objects for which there is room are those of the timers; or it is not, and nothing is
made. -/
def Settles (timers : List Members) (verdicts : List (Checked Verdict)) (closed : Bool) : Prop :=
  match lastVerdict verdicts with
  | some (.error _) => False
  | some (.ok .lost) => True
  | some (.ok _) => madeObjects verdicts = []
  | none =>
      if closed then Scheduled timers ((madeObjects verdicts).take iotgoDeviceTimerMax)
      else madeObjects verdicts = []

theorem scheduled_perm {timers : List Members} {objects others : List IoTgoTimeObject}
    (same : objects.Perm others) : Scheduled timers objects ↔ Scheduled timers others :=
  exists_congr fun _ => and_congr_left fun _ =>
    ⟨fun order => order.trans same, fun order => order.trans same.symm⟩

theorem used_deleted (list : TimeObjectList) : usedObjects (deleteAllTimeObject list) = [] := by
  apply List.filter_eq_nil_iff.2
  intro object member
  obtain ⟨index, -, rfl⟩ := List.mem_map.1 member
  unfold deleteAllTimeObject
  split
  · exact Bool.noConfusion
  · rename_i unused
    exact unused

theorem add_one_first (list : TimeObjectList) (object : IoTgoTimeObject) :
    addOneTimeObject list object =
      addFirst IoTgoTimeObject.used list { object with used := true } := by
  unfold addOneTimeObject addFirst
  cases (List.finRange iotgoDeviceTimerMax).find? fun index => (list index).used = false <;> rfl

theorem used_added {list : TimeObjectList} {made : List IoTgoTimeObject}
    (held : (usedObjects list).Perm (made.take iotgoDeviceTimerMax)) (object : IoTgoTimeObject) :
    (usedObjects (addOneTimeObject list object)).Perm
      ((made ++ [{ object with used := true }]).take iotgoDeviceTimerMax) := by
  rw [add_one_first]
  exact add_first_perm rfl held

/-- What a run of the verdicts leaves, where `made` was made before. -/
def Leaves (made : List IoTgoTimeObject) (verdicts : List (Checked Verdict)) (closed : Bool)
    (outcome : Checked (TimeObjectList × Bool)) : Prop :=
  match lastVerdict verdicts with
  | some (.error fault) => outcome = .error fault
  | some (.ok .lost) => ∃ next, outcome = .ok (next, false) ∧ usedObjects next = []
  | some (.ok _) => ∃ next, outcome = .ok (next, false) ∧
      (usedObjects next).Perm ((made ++ madeObjects verdicts).take iotgoDeviceTimerMax)
  | none => ∃ next, outcome = .ok (next, closed) ∧
      (usedObjects next).Perm ((made ++ madeObjects verdicts).take iotgoDeviceTimerMax)

theorem run_leaves {list : TimeObjectList} {made : List IoTgoTimeObject}
    (held : (usedObjects list).Perm (made.take iotgoDeviceTimerMax))
    (verdicts : List (Checked Verdict)) (closed : Bool) :
    Leaves made verdicts closed (runVerdicts closed list verdicts) := by
  induction verdicts generalizing list made with
  | nil =>
      refine ⟨list, rfl, ?_⟩
      rw [madeObjects, List.takeWhile_nil, List.filterMap_nil, List.append_nil]
      exact held
  | cons verdict rest ih =>
      cases verdict with
      | error fault => rfl
      | ok verdict =>
          cases verdict with
          | lost => exact ⟨_, rfl, used_deleted list⟩
          | refused =>
              refine ⟨list, rfl, ?_⟩
              have ended : madeObjects (.ok .refused :: rest) = [] := rfl
              rw [ended, List.append_nil]
              exact held
          | passed object =>
              cases object with
              | none => exact ih held
              | some object =>
                  have later := ih (used_added held object)
                  unfold Leaves at later ⊢
                  rw [List.append_assoc] at later
                  exact later

/-- The verdicts on the timers of an array, and whether the end of the array is found. -/
def arrayVerdicts (sites : Nat → CallSite) (timers : List Members) (rest : List JsonToken) :
    List (Checked Verdict) × Bool :=
  callVerdicts sites 0 0 (itemTokens (timers.map .object) ++ .arrayEnd :: rest)

/-- The elements of the value that `timers` has in a message. -/
def timersTokens (timers : List Members) (rest : List JsonToken) : List JsonToken :=
  .pair :: ((Json.array (timers.map .object)).tokens ++ rest)

theorem proc_timers_array (sites : Nat → CallSite) (list : TimeObjectList)
    (timers : List Members) (rest : List JsonToken) :
    jsonIoTgoProcTimers sites list (timersTokens timers rest) =
      runVerdicts (arrayVerdicts sites timers rest).2 (deleteAllTimeObject list)
        (arrayVerdicts sites timers rest).1 := by
  have tokens : timersTokens timers rest =
      .pair :: .array :: (itemTokens (timers.map .object) ++ .arrayEnd :: rest) := by
    rw [timersTokens, Json.tokens, List.cons_append, List.append_assoc, List.singleton_append]
  rw [tokens, jsonIoTgoProcTimers, proc_timers_run]
  rfl

theorem all_or_nothing_ok (timers : List Members) (next : TimeObjectList) (result : Bool) :
    AllOrNothing timers (.ok (next, result)) ↔
      if result then Scheduled timers (usedObjects next) else usedObjects next = [] := by
  constructor
  · rintro ⟨_, _, same, holds⟩
    cases same
    exact holds
  · exact fun holds => ⟨next, result, rfl, holds⟩

theorem used_nil_iff {next : TimeObjectList} {made : List IoTgoTimeObject}
    (held : (usedObjects next).Perm (made.take iotgoDeviceTimerMax)) :
    usedObjects next = [] ↔ made = [] := by
  have length := held.length_eq
  rw [← List.length_eq_zero_iff, length, List.length_eq_zero_iff]
  cases made <;> simp [iotgoDeviceTimerMax]

theorem leaves_all_or_nothing {timers : List Members} {verdicts : List (Checked Verdict)}
    {closed : Bool} {outcome : Checked (TimeObjectList × Bool)}
    (leaves : Leaves [] verdicts closed outcome) :
    AllOrNothing timers outcome ↔ Settles timers verdicts closed := by
  unfold Leaves at leaves
  unfold Settles
  cases last : lastVerdict verdicts with
  | none =>
      rw [last] at leaves
      obtain ⟨next, rfl, held⟩ := leaves
      rw [all_or_nothing_ok]
      cases closed with
      | true => exact scheduled_perm held
      | false => exact used_nil_iff held
  | some verdict =>
      rw [last] at leaves
      cases verdict with
      | error fault =>
          rw [leaves]
          refine iff_of_false ?_ id
          rintro ⟨_, _, same, -⟩
          cases same
      | ok verdict =>
          cases verdict with
          | lost =>
              obtain ⟨next, rfl, unused⟩ := leaves
              exact iff_of_true ((all_or_nothing_ok timers next false).2 unused) trivial
          | refused =>
              obtain ⟨next, rfl, held⟩ := leaves
              exact (all_or_nothing_ok timers next false).trans (used_nil_iff held)
          | passed made =>
              obtain ⟨next, rfl, held⟩ := leaves
              exact (all_or_nothing_ok timers next false).trans (used_nil_iff held)

/-- An update is all or nothing exactly where the verdicts on its timers settle it. -/
theorem all_or_nothing_iff (sites : Nat → CallSite) (list : TimeObjectList)
    (timers : List Members) (rest : List JsonToken) :
    AllOrNothing timers (jsonIoTgoProcTimers sites list (timersTokens timers rest)) ↔
      Settles timers (arrayVerdicts sites timers rest).1 (arrayVerdicts sites timers rest).2 := by
  rw [proc_timers_array]
  apply leaves_all_or_nothing
  apply run_leaves
  rw [used_deleted, List.take_nil]

/-- A timer that is scheduled, and one whose time is no time. -/
def halfRefused : List Members :=
  [[(asciiBytes "enabled", .number 1), (asciiBytes "type", .string (asciiBytes "once")),
      (asciiBytes "at", .string (asciiBytes "2015-06-20T08:00:00.000Z")),
      (asciiBytes "do", .object [(asciiBytes "switch", .string (asciiBytes "on"))])],
    [(asciiBytes "enabled", .number 1), (asciiBytes "type", .string (asciiBytes "duration")),
      (asciiBytes "at", .string (asciiBytes "daily")),
      (asciiBytes "do", .object [(asciiBytes "switch", .string (asciiBytes "off"))])]]

end Updates

end IotgoFirmware.Timers.TimerArrays
