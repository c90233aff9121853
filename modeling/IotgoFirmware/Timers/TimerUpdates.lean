import IotgoFirmware.Timers.TimerArrays
import IotgoFirmware.Timers.WholeTimers

/-!
# Updates that are all or nothing

An update of timers that are complete in themselves is carried out whole where each of them can
be scheduled. It is undone whole where one lacks a field and none before it is refused, and needs
no undoing where one is refused and none before it is scheduled.
-/

namespace IotgoFirmware.Timers.TimerUpdates

open IotgoFirmware.Library.CFaults
open IotgoFirmware.Library.CStrings
open IotgoFirmware.Library.JsonDocuments
open IotgoFirmware.Timers.TimeObjects
open IotgoFirmware.Timers.TimerArrays
open IotgoFirmware.Timers.TimerClock
open IotgoFirmware.Timers.TimerJson (parseGMTTimeFromString parseCronFromString)
open IotgoFirmware.Timers.TimerMonitor
open IotgoFirmware.Timers.TimerOffers
open IotgoFirmware.Timers.TimerReadings
open IotgoFirmware.Timers.TimersAlone
open IotgoFirmware.Timers.WholeTimers

set_option autoImplicit false

section Conditions

/-- An interval without a duration has a `do`; any other is longer than its duration. -/
def LengthsFit (fields : TimerFields) (interval duration : UInt32) : Prop :=
  (duration = 0 ∧ 0 < interval ∧ fields.doSwitch.isSome = true) ∨
    (0 < duration ∧ duration < interval)

section Fields

variable (site : CallSite) (fields : TimerFields)

/-- A timer of a type that there is, its lengths fit if it has some; and whether its time is
one. -/
inductive Timed : Bool → Prop where
  | once {timerAt : List UInt8} (type : fields.type = some (asciiBytes "once"))
      (timed : fields.timerAt = some timerAt) : Timed (parseGMTTimeFromString timerAt).isSome
  | cron {timerAt : List UInt8} {cron : Option IoTgoCron}
      (type : fields.type = some (asciiBytes "repeat")) (timed : fields.timerAt = some timerAt)
      (read : parseCronFromString (timerAt ++ 0 :: site.around.behind) = .ok cron) :
      Timed cron.isSome
  | duration {timerAt gmtStr : List UInt8} {interval duration : UInt32}
      (type : fields.type = some (asciiBytes "duration")) (timed : fields.timerAt = some timerAt)
      (split : parseFromATString timerAt = .ok (some (gmtStr, interval, duration)))
      (fit : LengthsFit fields interval duration) : Timed (parseGMTTimeFromString gmtStr).isSome

/-- The time of the timer is one, for its type, and there is memory for it. -/
def Timely : Prop :=
  site.around.memory = true ∧ Timed site fields true

/-- The type of the timer is none that there is. -/
def Untyped : Prop :=
  ∃ type, fields.type = some type ∧ type ≠ asciiBytes "once" ∧ type ≠ asciiBytes "repeat" ∧
    type ≠ asciiBytes "duration"

/-- The timer is passed over: its time is none, there is no memory, or its type is none and what
is read for the missing result is true. -/
inductive Idle : Prop where
  | time (timed : Timed site fields false)
  | memory {parsed : Bool} (short : site.around.memory = false) (timed : Timed site fields parsed)
  | type (untyped : Untyped fields) (read : site.unreturned = true)

/-- The timer is refused: its time has not its three parts, its lengths do not fit, or its type is
none and what is read for the missing result is false. -/
inductive Refused : Prop where
  | parts {timerAt : List UInt8} (type : fields.type = some (asciiBytes "duration"))
      (timed : fields.timerAt = some timerAt) (split : parseFromATString timerAt = .ok none)
  | lengths {timerAt gmtStr : List UInt8} {interval duration : UInt32}
      (type : fields.type = some (asciiBytes "duration")) (timed : fields.timerAt = some timerAt)
      (split : parseFromATString timerAt = .ok (some (gmtStr, interval, duration)))
      (unfit : ¬LengthsFit fields interval duration)
  | type (untyped : Untyped fields) (read : site.unreturned = false)

end Fields

/-- The timer can be scheduled, and each of its values is in a member of its own. -/
def Schedulable (site : CallSite) (members : Members) (values : List TimerValue) : Prop :=
  (∀ value ∈ values, Gives members value) ∧ Timely site (fieldsOf values)

/-- Timer after timer is whole and such, up to the end of the array or to a timer of which `ends`
tells. -/
inductive InTurn (holds : Nat → Members → List TimerValue → Prop) (ends : Nat → List Members → Prop) :
    Nat → List Members → Prop where
  | ends {calls : Nat} {timers : List Members} (here : ends calls timers) :
      InTurn holds ends calls timers
  | next {calls : Nat} {members : Members} {others : List Members}
      (whole : Whole (holds calls members) members) (later : InTurn holds ends (calls + 1) others) :
      InTurn holds ends calls (members :: others)

/-- All timers can be scheduled. -/
abbrev Carried (sites : Nat → CallSite) : Nat → List Members → Prop :=
  InTurn (fun calls => Schedulable (sites calls)) fun _ rest => rest = []

/-- A timer lacks a field, and none before it is refused. -/
abbrev Undone (sites : Nat → CallSite) : Nat → List Members → Prop :=
  InTurn (fun calls _ values => Timely (sites calls) (fieldsOf values) ∨
      Idle (sites calls) (fieldsOf values))
    fun _ rest => ∃ members others, rest = members :: others ∧ Lacking members others

/-- A timer is refused, and none before it is scheduled. -/
abbrev Unmade (sites : Nat → CallSite) : Nat → List Members → Prop :=
  InTurn (fun calls _ values => Idle (sites calls) (fieldsOf values))
    fun calls rest => ∃ members others, rest = members :: others ∧
      Told (fun values => Refused (sites calls) (fieldsOf values)) members

inductive OrderlyUpdate (sites : Nat → CallSite) (timers : List Members) : Prop where
  | carried (room : timers.length ≤ iotgoDeviceTimerMax) (run : Carried sites 0 timers)
  | undone (run : Undone sites 0 timers)
  | unmade (run : Unmade sites 0 timers)

/-- Each timer is whole, its values in members of its own, or lacks a field and takes none. -/
def Tidy : List Members → Prop
  | [] => True
  | members :: others =>
      (Whole (fun values => ∀ value ∈ values, Gives members value) members ∨
        Lacking members others) ∧ Tidy others

end Conditions

section Verdicts

variable {site : CallSite} {fields : TimerFields} {tokens : List JsonToken}

/-- The list that one object is added to, if the time of the timer is one and there is memory. -/
def addTimed (added : Bool) (object : IoTgoTimeObject) : TimeObjectList :=
  if added then addOneTimeObject noTimeObjects object else noTimeObjects

theorem object_added (around : Surroundings) (gmtStr : List UInt8)
    (object : IoTgoGMTTime → IoTgoTimeObject) :
    ∃ added,
      (match parseGMTTimeFromString gmtStr with
        | none => noTimeObjects
        | some gmt =>
            if around.memory then addOneTimeObject noTimeObjects (object gmt) else noTimeObjects) =
        addTimed (around.memory && (parseGMTTimeFromString gmtStr).isSome) added := by
  cases parseGMTTimeFromString gmtStr with
  | none =>
      refine ⟨deletedTimeObject, ?_⟩
      rw [Option.isSome_none, Bool.and_false]
      rfl
  | some gmt =>
      refine ⟨object gmt, ?_⟩
      rw [Option.isSome_some, Bool.and_true]
      rfl

theorem duration_added {timerAt gmtStr : List UInt8} {interval duration : UInt32} {enabled : Bool}
    (split : parseFromATString timerAt = .ok (some (gmtStr, interval, duration)))
    (fit : LengthsFit fields interval duration)
    (actions : fields.doSwitch.isSome = true ∨
      (fields.startDo.isSome = true ∧ fields.endDo.isSome = true)) :
    ∃ added, procDuration site.around noTimeObjects enabled fields timerAt =
      .ok (addTimed (site.around.memory && (parseGMTTimeFromString gmtStr).isSome) added,
        some true) := by
  unfold procDuration
  rw [split]
  dsimp only [bind_ok]
  rcases fit with single | ⟨positive, longer⟩
  · obtain ⟨added, same⟩ := object_added site.around gmtStr fun gmt =>
      { site.around.timeObj with
        type := .interval, gmt := gmt, timeInterval := interval,
        ptr := some (fields.doSwitch.getD []), enabled := enabled, secondCount := 0,
        minuteCount := 0 }
    rw [if_pos single]
    exact ⟨added, congrArg (fun list => Except.ok (list, some true)) same⟩
  · have several : ¬(duration = 0 ∧ 0 < interval ∧ fields.doSwitch.isSome = true) := by
      rintro ⟨rfl, -⟩
      exact UInt32.lt_irrefl 0 positive
    have long : ¬interval ≤ duration := UInt32.not_le.2 longer
    rw [if_neg several, if_pos ⟨positive, longer⟩]
    by_cases single : fields.doSwitch.isSome = true
    · obtain ⟨added, same⟩ := object_added site.around gmtStr fun gmt =>
        { site.around.timeObj with
          type := .intervalDuration, gmt := gmt, timeInterval := interval,
          timeDuration := duration, ptr := some (fields.doSwitch.getD []), enabled := enabled,
          secondCount := 0, minuteCount := 0 }
      rw [if_pos single]
      unfold addTimeObjectIntervalDuration
      rw [if_neg long]
      exact ⟨added, congrArg (fun list => Except.ok (list, some true)) same⟩
    · obtain ⟨added, same⟩ := object_added site.around gmtStr fun gmt =>
        { site.around.timeObj with
          type := .intervalDurationStartEnd, gmt := gmt, timeInterval := interval,
          timeDuration := duration, pStartDo := some (fields.startDo.getD []),
          pEndDo := some (fields.endDo.getD []), enabled := enabled, secondCount := 0,
          minuteCount := 0 }
      rw [if_neg single, if_pos (actions.resolve_left single)]
      unfold addTimeObjectDurationStartEnd
      rw [if_neg long]
      exact ⟨added, congrArg (fun list => Except.ok (list, some true)) same⟩

theorem proc_complete (scan : scanTimer .timer 0 .initial tokens = fields)
    (complete : fields.complete = true) {type timerAt : List UInt8}
    (typed : fields.type = some type) (timed : fields.timerAt = some timerAt)
    (around : Surroundings) :
    ∃ enabled, procOneTimer around noTimeObjects tokens =
      if type = asciiBytes "once" then
        .ok (addTimeObjectByGMTString around noTimeObjects enabled timerAt
          (fields.doSwitch.getD []), some true)
      else if type = asciiBytes "repeat" then do
        return (← addTimeObjectByCronString around noTimeObjects enabled timerAt
          (fields.doSwitch.getD []), some true)
      else if type = asciiBytes "duration" then
        procDuration around noTimeObjects enabled fields timerAt
      else .ok (noTimeObjects, none) := by
  have passes := complete_accepted fields complete
  simp only [accepted, Bool.and_eq_true, Bool.or_eq_true, or_assoc] at passes
  obtain ⟨⟨⟨hasEnabled, -⟩, -⟩, actions⟩ := passes
  obtain ⟨value, enabled⟩ := Option.isSome_iff_exists.1 hasEnabled
  refine ⟨decide (value % 256 ≠ 0), ?_⟩
  unfold procOneTimer
  dsimp only
  rw [scan, enabled, typed, timed]
  exact if_pos actions

theorem timed_proc (scan : scanTimer .timer 0 .initial tokens = fields)
    (complete : fields.complete = true) {parsed : Bool} (timed : Timed site fields parsed) :
    ∃ object, procOneTimer site.around noTimeObjects tokens =
      .ok (addTimed (site.around.memory && parsed) object, some true) := by
  cases timed with
  | @once timerAt type timed =>
      obtain ⟨enabled, proc⟩ := proc_complete scan complete type timed site.around
      obtain ⟨object, same⟩ := object_added site.around timerAt fun gmt =>
        { site.around.timeObj with
          type := .gmt, gmt := gmt, ptr := some (fields.doSwitch.getD []), enabled := enabled }
      rw [if_pos rfl] at proc
      exact ⟨object, proc.trans (congrArg (fun list => Except.ok (list, some true)) same)⟩
  | @cron timerAt cron type timed read =>
      obtain ⟨enabled, proc⟩ := proc_complete scan complete type timed site.around
      rw [if_neg (by decide), if_pos rfl] at proc
      unfold addTimeObjectByCronString at proc
      rw [read] at proc
      cases cron with
      | none =>
          refine ⟨deletedTimeObject, ?_⟩
          rw [proc, Option.isSome_none, Bool.and_false]
          rfl
      | some cron =>
          refine ⟨{ site.around.timeObj with
            type := .cron, cron := cron, ptr := some (fields.doSwitch.getD []),
            enabled := enabled }, ?_⟩
          rw [proc, Option.isSome_some, Bool.and_true]
          cases site.around.memory <;> rfl
  | @duration timerAt gmtStr interval length type timed split fit =>
      obtain ⟨enabled, proc⟩ := proc_complete scan complete type timed site.around
      have actions := complete
      simp only [TimerFields.complete, Bool.and_eq_true, Bool.or_eq_true] at actions
      rw [if_neg (by decide), if_neg (by decide), if_pos rfl] at proc
      obtain ⟨object, same⟩ := @duration_added site fields _ _ _ _ enabled split fit actions.2
      exact ⟨object, proc.trans same⟩

theorem timed_verdict (scan : scanTimer .timer 0 .initial tokens = fields)
    (complete : fields.complete = true) {parsed : Bool} (timed : Timed site fields parsed) :
    ∃ object, object.used = true ∧ timerVerdict site tokens =
      .ok (.passed (if site.around.memory && parsed then some object else none)) := by
  obtain ⟨object, proc⟩ := timed_proc scan complete timed
  refine ⟨{ object with used := true }, rfl, ?_⟩
  unfold timerVerdict
  rw [scan, if_pos (complete_accepted fields complete), proc]
  cases site.around.memory && parsed <;> rfl

theorem untyped_verdict (scan : scanTimer .timer 0 .initial tokens = fields)
    (complete : fields.complete = true) (untyped : Untyped fields) :
    timerVerdict site tokens = .ok (if site.unreturned then .passed none else .refused) := by
  obtain ⟨type, typed, once, again, lasting⟩ := untyped
  have passes := complete_accepted fields complete
  have timed := passes
  simp only [accepted, Bool.and_eq_true] at timed
  obtain ⟨timerAt, timed⟩ := Option.isSome_iff_exists.1 timed.1.2
  obtain ⟨enabled, proc⟩ := proc_complete scan complete typed timed site.around
  rw [if_neg once, if_neg again, if_neg lasting] at proc
  unfold timerVerdict
  rw [scan, if_pos passes, proc]
  rfl

theorem idle_verdict (scan : scanTimer .timer 0 .initial tokens = fields)
    (complete : fields.complete = true) (idle : Idle site fields) :
    timerVerdict site tokens = .ok (.passed none) := by
  cases idle with
  | time timed =>
      obtain ⟨object, -, same⟩ := timed_verdict scan complete timed
      rw [same, Bool.and_false]
      rfl
  | memory short timed =>
      obtain ⟨object, -, same⟩ := timed_verdict scan complete timed
      rw [same, short]
      rfl
  | type untyped read =>
      rw [untyped_verdict scan complete untyped, read]
      rfl

theorem refused_verdict (scan : scanTimer .timer 0 .initial tokens = fields)
    (complete : fields.complete = true) (refused : Refused site fields) :
    timerVerdict site tokens = .ok .refused := by
  have passes := complete_accepted fields complete
  cases refused with
  | parts type timed split =>
      obtain ⟨enabled, proc⟩ := proc_complete scan complete type timed site.around
      rw [if_neg (by decide), if_neg (by decide), if_pos rfl, procDuration, split] at proc
      unfold timerVerdict
      rw [scan, if_pos passes, proc]
      rfl
  | lengths type timed split unfit =>
      obtain ⟨enabled, proc⟩ := proc_complete scan complete type timed site.around
      rw [if_neg (by decide), if_neg (by decide), if_pos rfl, procDuration, split] at proc
      dsimp only [bind_ok] at proc
      rw [if_neg fun single => unfit (.inl single), if_neg fun longer => unfit (.inr longer)] at proc
      unfold timerVerdict
      rw [scan, if_pos passes, proc]
      rfl
  | type untyped read =>
      rw [untyped_verdict scan complete untyped, read]
      rfl

end Verdicts

section Calls

variable (sites : Nat → CallSite) (calls : Nat) (rest : List JsonToken)

/-- The loop over the array does not look at the element. -/
def Passive (token : JsonToken) : Prop :=
  token ≠ .object ∧ token ≠ .arrayEnd ∧ token ≠ .failed

theorem calls_skip (tokens : List JsonToken) :
    callVerdicts sites calls tokens.length (tokens ++ rest) = callVerdicts sites calls 0 rest := by
  induction tokens with
  | nil => rfl
  | cons token tokens ih => exact ih

theorem calls_pass {tokens : List JsonToken} (passive : ∀ token ∈ tokens, Passive token) :
    callVerdicts sites calls 0 (tokens ++ rest) = callVerdicts sites calls 0 rest := by
  induction tokens with
  | nil => rfl
  | cons token tokens ih =>
      obtain ⟨here, later⟩ := List.forall_mem_cons.1 passive
      obtain ⟨object, arrayEnd, failed⟩ := here
      rw [← ih later]
      cases token with
      | object => exact absurd rfl object
      | arrayEnd => exact absurd rfl arrayEnd
      | failed => exact absurd rfl failed
      | _ => rfl

theorem plain_passive {behind : Members} (plain : ∀ member ∈ behind, Plain member.2) :
    ∀ token ∈ behindComma .comma (memberTokens behind), Passive token := by
  have passed : ∀ tokens : List JsonToken, (∀ token ∈ tokens, Passive token) →
      ∀ token ∈ behindComma .comma tokens, Passive token := by
    intro tokens passive
    cases tokens with
    | nil => exact passive
    | cons token tokens =>
        exact List.forall_mem_cons.2
          ⟨⟨JsonToken.noConfusion, JsonToken.noConfusion, JsonToken.noConfusion⟩, passive⟩
  apply passed
  induction behind with
  | nil => exact fun _ member => by cases member
  | cons member behind ih =>
      obtain ⟨name, value⟩ := member
      obtain ⟨here, later⟩ := List.forall_mem_cons.1 plain
      have head : Passive value.head := by
        cases here <;>
          exact ⟨JsonToken.noConfusion, JsonToken.noConfusion, JsonToken.noConfusion⟩
      have tokens : pairTokens (name, value) = [.pairName name, .pair, value.head] := by
        cases here <;> rfl
      intro token held
      rw [memberTokens, tokens, List.mem_append, List.mem_cons, List.mem_cons,
        List.mem_singleton] at held
      rcases held with (rfl | rfl | rfl) | held
      · exact ⟨JsonToken.noConfusion, JsonToken.noConfusion, JsonToken.noConfusion⟩
      · exact ⟨JsonToken.noConfusion, JsonToken.noConfusion, JsonToken.noConfusion⟩
      · exact head
      · exact passed _ (ih later) token held

/-- The verdicts on the timers of an array behind some calls. -/
def timerCalls (timers : List Members) : List (Checked Verdict) × Bool :=
  callVerdicts sites calls 0 (itemTokens (timers.map .object) ++ .arrayEnd :: rest)

/-- A timer behind its `{`, with all that follows it. -/
def tokensFrom (members : Members) (others : List Members) : List JsonToken :=
  ownTokens members ++ (arrayTail others ++ rest)

theorem timer_calls (members : Members) (others : List Members) :
    timerCalls sites calls rest (members :: others) =
      let later := callVerdicts sites (calls + 1)
        (scanConsumed .timer 0 .initial (tokensFrom rest members others))
        (tokensFrom rest members others)
      (timerVerdict (sites calls) (tokensFrom rest members others) :: later.1, later.2) := by
  have tokens : itemTokens ((members :: others).map .object) ++ .arrayEnd :: rest =
      .object :: tokensFrom rest members others := by
    simp [tokensFrom, ownTokens, arrayTail, itemTokens, Json.tokens]
  rw [timerCalls, tokens]
  rfl

theorem tail_calls (others : List Members) :
    callVerdicts sites calls 0 (arrayTail others ++ rest) = timerCalls sites calls rest others := by
  unfold timerCalls arrayTail
  rw [List.append_assoc, List.singleton_append]
  cases itemTokens (others.map .object) <;> rfl

/-- What stands behind the member that completes a timer, to the end of the timer. -/
def tokensBehind (behind : Members) : List JsonToken :=
  behindComma .comma (memberTokens behind) ++ [.objectEnd]

theorem own_split (init behind : Members) (last : List UInt8 × Json) :
    ownTokens (init ++ last :: behind) ++ rest =
      frontTokens init ++ (pairTokens last ++ (tokensBehind behind ++ rest)) := by
  simp only [ownTokens, tokensBehind, member_tokens_split, List.append_assoc]

theorem tokens_behind (behind : Members) :
    ∃ token later, tokensBehind behind ++ rest = token :: later := by
  unfold tokensBehind
  cases memberTokens behind <;> exact ⟨_, _, rfl⟩

variable {sites calls rest} {init behind : Members} {last : List UInt8 × Json}
  {others : List Members}

theorem completes_scan (completes : Completes init last) :
    scanTimer .timer 0 .initial (tokensFrom rest (init ++ last :: behind) others) =
      fieldsOf (valuesTo init last) := by
  obtain ⟨token, later, begins⟩ := tokens_behind (arrayTail others ++ rest) behind
  rw [scan_taken, tokensFrom, own_split, begins, completes_taken completes token later]
  rfl

/-- A timer that is whole is one call, and the next timer is the next one. -/
theorem whole_calls (completes : Completes init last) (plain : ∀ member ∈ behind, Plain member.2) :
    timerCalls sites calls rest ((init ++ last :: behind) :: others) =
      (timerVerdict (sites calls) (tokensFrom rest (init ++ last :: behind) others) ::
        (timerCalls sites (calls + 1) rest others).1,
      (timerCalls sites (calls + 1) rest others).2) := by
  have later : callVerdicts sites (calls + 1)
      (scanConsumed .timer 0 .initial (tokensFrom rest (init ++ last :: behind) others))
      (tokensFrom rest (init ++ last :: behind) others) =
        timerCalls sites (calls + 1) rest others := by
    have passive : ∀ token ∈ tokensBehind behind, Passive token := by
      intro token held
      rcases List.mem_append.1 held with held | held
      · exact plain_passive plain token held
      · cases List.mem_singleton.1 held
        exact ⟨JsonToken.noConfusion, JsonToken.noConfusion, JsonToken.noConfusion⟩
    rw [tokensFrom, own_split, completes_consumed completes, ← List.append_assoc, calls_skip,
      calls_pass _ _ _ passive, tail_calls]
  rw [timer_calls, later]

end Calls

section Updates

variable {sites : Nat → CallSite} {calls : Nat} {rest : List JsonToken} {timers : List Members}

theorem schedulable_made {site : CallSite} {members : Members} {values : List TimerValue}
    {tokens : List JsonToken} (scan : scanTimer .timer 0 .initial tokens = fieldsOf values)
    (schedule : HasSchedule (· ∈ values)) (actions : HasActions (· ∈ values))
    (schedulable : Schedulable site members values) :
    ∃ object, timerVerdict site tokens = .ok (.passed (some object)) ∧
      ScheduledAs members { object with used := true } := by
  obtain ⟨own, memory, timed⟩ := schedulable
  have complete : (fieldsOf values).complete = true := (complete_iff values).2 ⟨schedule, actions⟩
  obtain ⟨object, used, verdict⟩ := timed_verdict scan complete timed
  rw [memory] at verdict
  have same : { object with used := true } = object := by
    rw [← used]
  refine ⟨object, verdict, values, own, schedule, actions, site, tokens, scan, ?_⟩
  rw [same]
  exact verdict

theorem run_carried (run : Carried sites calls timers) :
    (timerCalls sites calls rest timers).2 = true ∧
      lastVerdict (timerCalls sites calls rest timers).1 = none ∧
      List.Forall₂ ScheduledAs timers (madeObjects (timerCalls sites calls rest timers).1) := by
  induction run with
  | @ends calls timers here =>
      subst here
      exact ⟨rfl, rfl, .nil⟩
  | @next calls members others whole later ih =>
      obtain ⟨init, last, behind, rfl, completes, plain, schedulable⟩ := whole
      obtain ⟨object, verdict, scheduled⟩ := schedulable_made
        (@completes_scan rest init behind last others completes) completes.schedule
        completes.actions schedulable
      rw [whole_calls completes plain, verdict]
      exact ⟨ih.1, ih.2.1, .cons scheduled ih.2.2⟩

theorem lacking_calls {members : Members} {others : List Members}
    (lacking : Lacking members others) : ∃ later closed,
      timerCalls sites calls rest (members :: others) = (.ok .lost :: later, closed) := by
  have values := (values_alone_iff members others rest).2 lacking.1
  have refused : ¬accepted (scanTimer .timer 0 .initial
      (tokensFrom rest members others)) = true := by
    rw [scan_taken, tokensFrom, values, accepted_own]
    exact lacking.2
  rw [timer_calls, timerVerdict, if_neg refused]
  exact ⟨_, _, rfl⟩

theorem run_undone (run : Undone sites calls timers) :
    lastVerdict (timerCalls sites calls rest timers).1 = some (.ok .lost) := by
  induction run with
  | @ends calls timers here =>
      obtain ⟨members, others, rfl, lacking⟩ := here
      obtain ⟨later, closed, verdicts⟩ := @lacking_calls sites calls rest members others lacking
      rw [verdicts]
      rfl
  | @next calls members others whole later ih =>
      obtain ⟨init, last, behind, rfl, completes, plain, fate⟩ := whole
      have scan := @completes_scan rest init behind last others completes
      have complete := completes_fields completes
      have passes : ∃ made, timerVerdict (sites calls)
          (tokensFrom rest (init ++ last :: behind) others) = .ok (.passed made) := by
        rcases fate with timely | idle
        · obtain ⟨object, -, verdict⟩ := timed_verdict scan complete timely.2
          exact ⟨_, verdict⟩
        · exact ⟨none, idle_verdict scan complete idle⟩
      obtain ⟨made, verdict⟩ := passes
      rw [whole_calls completes plain, verdict]
      exact ih

theorem run_unmade (run : Unmade sites calls timers) :
    lastVerdict (timerCalls sites calls rest timers).1 = some (.ok .refused) ∧
      madeObjects (timerCalls sites calls rest timers).1 = [] := by
  induction run with
  | @ends calls timers here =>
      obtain ⟨members, others, rfl, init, last, behind, rfl, completes, refused⟩ := here
      have scan := @completes_scan rest init behind last others completes
      rw [timer_calls, refused_verdict scan (completes_fields completes) refused]
      exact ⟨rfl, rfl⟩
  | @next calls members others whole later ih =>
      obtain ⟨init, last, behind, rfl, completes, plain, idle⟩ := whole
      have scan := @completes_scan rest init behind last others completes
      rw [whole_calls completes plain, idle_verdict scan (completes_fields completes) idle]
      exact ih

end Updates

section Tidiness

variable {sites : Nat → CallSite} {calls : Nat} {rest : List JsonToken} {timers : List Members}

theorem timed_fate {site : CallSite} {fields : TimerFields} {parsed : Bool}
    (timed : Timed site fields parsed) : Timely site fields ∨ Idle site fields := by
  cases memory : site.around.memory with
  | false => exact .inr (.memory memory timed)
  | true =>
      cases parsed with
      | false => exact .inr (.time timed)
      | true => exact .inl ⟨memory, timed⟩

/-- What a timer that is complete comes to, unless its time is read outside its text. -/
theorem complete_fate {site : CallSite} {fields : TimerFields} {tokens : List JsonToken}
    (scan : scanTimer .timer 0 .initial tokens = fields) (complete : fields.complete = true) :
    (∃ fault, timerVerdict site tokens = .error fault) ∨ Timely site fields ∨ Idle site fields ∨
      Refused site fields := by
  have passes := complete_accepted fields complete
  have has := passes
  simp only [accepted, Bool.and_eq_true] at has
  obtain ⟨type, typed⟩ := Option.isSome_iff_exists.1 has.1.1.2
  obtain ⟨timerAt, timed⟩ := Option.isSome_iff_exists.1 has.1.2
  obtain ⟨enabled, proc⟩ := proc_complete scan complete typed timed site.around
  have fails (fault : CFault) (failed : procOneTimer site.around noTimeObjects tokens =
      .error fault) : ∃ fault, timerVerdict site tokens = .error fault := by
    refine ⟨fault, ?_⟩
    unfold timerVerdict
    rw [scan, if_pos passes, failed]
    rfl
  have timely {parsed : Bool} (timed : Timed site fields parsed) :
      (∃ fault, timerVerdict site tokens = .error fault) ∨ Timely site fields ∨
        Idle site fields ∨ Refused site fields :=
    .inr ((timed_fate timed).imp_right .inl)
  by_cases once : type = asciiBytes "once"
  · exact timely (.once (once ▸ typed) timed)
  · by_cases again : type = asciiBytes "repeat"
    · cases read : parseCronFromString (timerAt ++ 0 :: site.around.behind) with
      | error fault =>
          rw [if_neg once, if_pos again, addTimeObjectByCronString, read] at proc
          exact .inl (fails fault proc)
      | ok cron => exact timely (.cron (again ▸ typed) timed read)
    · by_cases lasting : type = asciiBytes "duration"
      · cases split : parseFromATString timerAt with
        | error fault =>
            rw [if_neg once, if_neg again, if_pos lasting, procDuration, split] at proc
            exact .inl (fails fault proc)
        | ok parts =>
            cases parts with
            | none => exact .inr (.inr (.inr (.parts (lasting ▸ typed) timed split)))
            | some parts =>
                obtain ⟨gmtStr, interval, duration⟩ := parts
                by_cases fit : LengthsFit fields interval duration
                · exact timely (.duration (lasting ▸ typed) timed split fit)
                · exact .inr (.inr (.inr (.lengths (lasting ▸ typed) timed split fit)))
      · have untyped : Untyped fields := ⟨type, typed, once, again, lasting⟩
        cases read : site.unreturned with
        | true => exact .inr (.inr (.inl (.type untyped read)))
        | false => exact .inr (.inr (.inr (.type untyped read)))

/-- What the loop over an array makes of a timer that is tidy. -/
inductive TidyCall (sites : Nat → CallSite) (calls : Nat) (rest : List JsonToken)
    (members : Members) (others : List Members) : List (Checked Verdict) × Bool → Prop where
  | fault (fault : CFault) (later : List (Checked Verdict)) (closed : Bool) :
      TidyCall sites calls rest members others (.error fault :: later, closed)
  | lost (lacking : Lacking members others) (later : List (Checked Verdict)) (closed : Bool) :
      TidyCall sites calls rest members others (.ok .lost :: later, closed)
  | refused (told : Told (fun values => Refused (sites calls) (fieldsOf values)) members)
      (later : List (Checked Verdict)) (closed : Bool) :
      TidyCall sites calls rest members others (.ok .refused :: later, closed)
  | idle (whole : Whole (fun values => Idle (sites calls) (fieldsOf values)) members) :
      TidyCall sites calls rest members others
        (.ok (.passed none) :: (timerCalls sites (calls + 1) rest others).1,
          (timerCalls sites (calls + 1) rest others).2)
  | scheduled (whole : Whole (Schedulable (sites calls) members) members)
      (object : IoTgoTimeObject) :
      TidyCall sites calls rest members others
        (.ok (.passed (some object)) :: (timerCalls sites (calls + 1) rest others).1,
          (timerCalls sites (calls + 1) rest others).2)

theorem tidy_call {members : Members} {others : List Members} (tidy : Tidy (members :: others)) :
    TidyCall sites calls rest members others (timerCalls sites calls rest (members :: others)) := by
  rcases tidy.1 with whole | lacking
  · obtain ⟨init, last, behind, rfl, completes, plain, own⟩ := whole
    have scan := @completes_scan rest init behind last others completes
    have complete := completes_fields completes
    rw [whole_calls completes plain]
    rcases @complete_fate (sites calls) _ _ scan complete with failed | timely | idle | refused
    · obtain ⟨fault, verdict⟩ := failed
      rw [verdict]
      exact .fault fault _ _
    · obtain ⟨object, -, verdict⟩ := timed_verdict scan complete timely.2
      rw [verdict, timely.1]
      exact .scheduled ⟨init, last, behind, rfl, completes, plain, own, timely⟩ object
    · rw [idle_verdict scan complete idle]
      exact .idle ⟨init, last, behind, rfl, completes, plain, idle⟩
    · rw [refused_verdict scan complete refused]
      exact .refused ⟨init, last, behind, rfl, completes, refused⟩ _ _
  · obtain ⟨later, closed, verdicts⟩ := @lacking_calls sites calls rest members others lacking
    rw [verdicts]
    exact .lost lacking later closed

/-- Where the end is reached with as many objects as timers, all could be scheduled. -/
theorem tidy_carried (tidy : Tidy timers)
    (last : lastVerdict (timerCalls sites calls rest timers).1 = none) :
    (timerCalls sites calls rest timers).2 = true ∧
      (madeObjects (timerCalls sites calls rest timers).1).length ≤ timers.length ∧
      ((madeObjects (timerCalls sites calls rest timers).1).length = timers.length →
        Carried sites calls timers) := by
  induction timers generalizing calls with
  | nil => exact ⟨rfl, Nat.le_refl 0, fun _ => .ends rfl⟩
  | cons members others ih =>
      have call := @tidy_call sites calls rest members others tidy
      generalize timerCalls sites calls rest (members :: others) = verdicts at call last
      cases call with
      | fault fault later closed => cases last
      | lost lacking later closed => cases last
      | refused told later closed => cases last
      | idle whole =>
          obtain ⟨closed, short, -⟩ := ih tidy.2 last
          refine ⟨closed, Nat.le_succ_of_le short, fun same => ?_⟩
          have less := Nat.lt_succ_of_le short
          rw [List.length_cons] at same
          exact absurd same (Nat.ne_of_lt less)
      | scheduled whole object =>
          obtain ⟨closed, short, run⟩ := ih tidy.2 last
          exact ⟨closed, Nat.succ_le_succ short, fun same => .next whole (run (Nat.succ.inj same))⟩

theorem tidy_undone (tidy : Tidy timers)
    (last : lastVerdict (timerCalls sites calls rest timers).1 = some (.ok .lost)) :
    Undone sites calls timers := by
  induction timers generalizing calls with
  | nil => cases last
  | cons members others ih =>
      have call := @tidy_call sites calls rest members others tidy
      generalize timerCalls sites calls rest (members :: others) = verdicts at call last
      cases call with
      | fault fault later closed => cases last
      | lost lacking later closed => exact .ends ⟨members, others, rfl, lacking⟩
      | refused told later closed => cases last
      | idle whole =>
          obtain ⟨init, final, behind, same, completes, plain, idle⟩ := whole
          exact .next ⟨init, final, behind, same, completes, plain, .inr idle⟩ (ih tidy.2 last)
      | scheduled whole object =>
          obtain ⟨init, final, behind, same, completes, plain, schedulable⟩ := whole
          exact .next ⟨init, final, behind, same, completes, plain, .inl schedulable.2⟩
            (ih tidy.2 last)

theorem tidy_unmade (tidy : Tidy timers)
    (last : lastVerdict (timerCalls sites calls rest timers).1 = some (.ok .refused))
    (none : madeObjects (timerCalls sites calls rest timers).1 = []) :
    Unmade sites calls timers := by
  induction timers generalizing calls with
  | nil => cases last
  | cons members others ih =>
      have call := @tidy_call sites calls rest members others tidy
      generalize timerCalls sites calls rest (members :: others) = verdicts at call last none
      cases call with
      | fault fault later closed => cases last
      | lost lacking later closed => cases last
      | refused told later closed => exact .ends ⟨members, others, rfl, told⟩
      | idle whole => exact .next whole (ih tidy.2 last none)
      | scheduled whole object => cases none

theorem last_stops {verdicts : List (Checked Verdict)} {verdict : Checked Verdict}
    (last : lastVerdict verdicts = some verdict) : goesOn verdict = false := by
  have stops := List.find?_some last
  simpa using stops

theorem orderly_settles (orderly : OrderlyUpdate sites timers) :
    Settles timers (timerCalls sites 0 rest timers).1 (timerCalls sites 0 rest timers).2 := by
  unfold Settles
  cases orderly with
  | carried room run =>
      obtain ⟨closed, last, made⟩ := @run_carried sites 0 rest timers run
      rw [last, closed]
      have length := made.length_eq
      have all : (madeObjects (timerCalls sites 0 rest timers).1).take iotgoDeviceTimerMax =
          madeObjects (timerCalls sites 0 rest timers).1 :=
        List.take_of_length_le (length ▸ room)
      dsimp only
      rw [if_pos rfl, all]
      exact ⟨_, List.Perm.refl _, made⟩
  | undone run =>
      rw [run_undone run]
      trivial
  | unmade run =>
      obtain ⟨last, made⟩ := @run_unmade sites 0 rest timers run
      rw [last]
      exact made

/-- Where all timers are tidy, nothing else is all or nothing. -/
theorem tidy_orderly (tidy : Tidy timers)
    (settles : Settles timers (timerCalls sites 0 rest timers).1
      (timerCalls sites 0 rest timers).2) : OrderlyUpdate sites timers := by
  unfold Settles at settles
  cases last : lastVerdict (timerCalls sites 0 rest timers).1 with
  | none =>
      obtain ⟨closed, short, run⟩ := tidy_carried tidy last
      rw [last, closed] at settles
      obtain ⟨order, same, scheduled⟩ := settles
      have lengths := scheduled.length_eq.trans same.length_eq
      rw [List.length_take] at lengths
      have room : timers.length ≤ iotgoDeviceTimerMax := lengths ▸ Nat.min_le_left _ _
      have all : (madeObjects (timerCalls sites 0 rest timers).1).length = timers.length :=
        Nat.le_antisymm short (lengths ▸ Nat.min_le_right _ _)
      exact .carried room (run all)
  | some verdict =>
      rw [last] at settles
      cases verdict with
      | error fault => exact settles.elim
      | ok verdict =>
          cases verdict with
          | lost => exact .undone (tidy_undone tidy last)
          | refused => exact .unmade (tidy_unmade tidy last settles)
          | passed made => cases last_stops last

/-- A timer that ends with its `do`, and one that has a member behind its `at`. -/
def twoTimers : List Members :=
  [[(asciiBytes "enabled", .number 1), (asciiBytes "type", .string (asciiBytes "once")),
      (asciiBytes "at", .string (asciiBytes "2015-06-20T08:00:00.000Z")),
      (asciiBytes "do", .object [(asciiBytes "switch", .string (asciiBytes "on"))])],
    [(asciiBytes "do", .object [(asciiBytes "switch", .string (asciiBytes "off"))]),
      (asciiBytes "enabled", .number 1), (asciiBytes "type", .string (asciiBytes "once")),
      (asciiBytes "at", .string (asciiBytes "2015-06-20T09:00:00.000Z")),
      (asciiBytes "note", .string (asciiBytes "x"))]]

def plentiful : CallSite :=
  ⟨⟨deletedTimeObject, [], true⟩, false⟩

theorem once_schedulable {members : Members} {values : List TimerValue} {enabled : Int}
    {timerAt switch : List UInt8} {loop : ScanLoop}
    (same : values.Perm [.enabled enabled, .type (asciiBytes "once"), .timerAt timerAt,
      .switch loop switch])
    (hasEnabled : Gives members (.enabled enabled))
    (hasType : Gives members (.type (asciiBytes "once")))
    (hasAt : Gives members (.timerAt timerAt)) (hasSwitch : Gives members (.switch loop switch))
    (type : (fieldsOf values).type = some (asciiBytes "once"))
    (timed : (fieldsOf values).timerAt = some timerAt)
    (parsed : (parseGMTTimeFromString timerAt).isSome = true) :
    Schedulable plentiful members values := by
  have once := @Timed.once plentiful (fieldsOf values) timerAt type timed
  rw [parsed] at once
  refine ⟨fun value held => ?_, rfl, once⟩
  have listed := same.mem_iff.1 held
  simp only [List.mem_cons, List.not_mem_nil, or_false] at listed
  rcases listed with rfl | rfl | rfl | rfl
  · exact hasEnabled
  · exact hasType
  · exact hasAt
  · exact hasSwitch

theorem two_timers_orderly : OrderlyUpdate (fun _ => plentiful) twoTimers := by
  refine .carried (by decide) (.next ?_ (.next ?_ (.ends rfl)))
  · refine ⟨[(asciiBytes "enabled", .number 1), (asciiBytes "type", .string (asciiBytes "once")),
      (asciiBytes "at", .string (asciiBytes "2015-06-20T08:00:00.000Z"))],
      (asciiBytes "do", .object [(asciiBytes "switch", .string (asciiBytes "on"))]), [], rfl,
      ⟨by decide, ?_, ?_, ?_, ?_⟩, ?_, ?_⟩
    · exact fun complete => absurd ((complete_iff _).2 complete) (by decide)
    · refine .action (@ScanLoop.noConfusion _ .doSwitch .timer) (by rfl) ?_
      intro member held
      cases List.mem_singleton.1 held
      exact ⟨.string _, fun _ => ⟨_, rfl⟩⟩
    · exact ((complete_iff _).1 (by decide)).1
    · exact ((complete_iff _).1 (by decide)).2
    · exact fun _ held => by cases held
    · exact @once_schedulable _ _ 1 (asciiBytes "2015-06-20T08:00:00.000Z") (asciiBytes "on")
        .doSwitch (by decide) ⟨[], .head _⟩ ⟨_, .tail _ (.head _), rfl⟩
        ⟨_, .tail _ (.tail _ (.head _)), rfl⟩
        ⟨_, _, _, rfl, .tail _ (.tail _ (.tail _ (.head _))), .head _, rfl⟩
        (by decide) (by decide) (by decide)
  · refine ⟨[(asciiBytes "do", .object [(asciiBytes "switch", .string (asciiBytes "off"))]),
      (asciiBytes "enabled", .number 1), (asciiBytes "type", .string (asciiBytes "once"))],
      (asciiBytes "at", .string (asciiBytes "2015-06-20T09:00:00.000Z")),
      [(asciiBytes "note", .string (asciiBytes "x"))], rfl, ⟨by decide, ?_, ?_, ?_, ?_⟩, ?_, ?_⟩
    · exact fun complete => absurd ((complete_iff _).2 complete) (by decide)
    · exact @Asked.field (asciiBytes "at") _ (.timerAt (asciiBytes "2015-06-20T09:00:00.000Z"))
        (.string _) (by rfl)
    · exact ((complete_iff _).1 (by decide)).1
    · exact ((complete_iff _).1 (by decide)).2
    · intro member held
      cases List.mem_singleton.1 held
      exact .string _
    · exact @once_schedulable _ _ 1 (asciiBytes "2015-06-20T09:00:00.000Z") (asciiBytes "off")
        .doSwitch (by decide) ⟨[], .tail _ (.head _)⟩ ⟨_, .tail _ (.tail _ (.head _)), rfl⟩
        ⟨_, .tail _ (.tail _ (.tail _ (.head _))), rfl⟩
        ⟨_, _, _, rfl, .head _, .head _, rfl⟩ (by decide) (by decide) (by decide)

end Tidiness

end IotgoFirmware.Timers.TimerUpdates
