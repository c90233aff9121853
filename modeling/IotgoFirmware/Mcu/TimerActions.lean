import IotgoFirmware.Json.PrintedGrammar
import IotgoFirmware.Timers.IntervalGuards
import IotgoFirmware.Timers.TimerQueries
import IotgoFirmware.Timers.TimerTicks
import Mathlib.Tactic.FinCases

/-!
# The actions of the timers

What `timerDealTime` passes to `switchActionCallback` of `FWTRX_TC.c`, which queues it for the
MCU. Of the union `time_action` the code does not know which member is set: a timer with a
`do` has no `end_do`, but at the end of its duration this is what it passes.
-/

namespace IotgoFirmware.Mcu.TimerActions

open IotgoFirmware.Library.CFaults
open IotgoFirmware.Library.CJsonItems
open IotgoFirmware.Library.CJsonTrees
open IotgoFirmware.Library.CStrings
open IotgoFirmware.Library.Doubles
open IotgoFirmware.Library.JsonGrammar
open IotgoFirmware.Library.SlotMaps
open IotgoFirmware.Library.StepRuns
open IotgoFirmware.Json.DecimalTexts
open IotgoFirmware.Json.ItemPrinting (IsInt)
open IotgoFirmware.Json.PrintedGrammar
open IotgoFirmware.Json.RoundTrips
open IotgoFirmware.Timers.IntervalGuards
open IotgoFirmware.Timers.TimerClock
open IotgoFirmware.Timers.TimerFlash
open IotgoFirmware.Timers.TimerJson
open IotgoFirmware.Timers.TimerLayout
open IotgoFirmware.Timers.TimerMap
open IotgoFirmware.Timers.TimerOrigins
open IotgoFirmware.Timers.TimerProc (Origin TimerWorld timerProcUpdate)
open IotgoFirmware.Timers.TimerQueries (cjsonWorld switch_on_printable)
open IotgoFirmware.Timers.TimerRequests (TimerReply)
open IotgoFirmware.Timers.TimerRuns
open IotgoFirmware.Timers.TimerTicks (dealCalls calledOf deal_time_actions)

set_option autoImplicit false

/-- The text that is added to the queue; the memory for it is there. -/
def switchActionCallback (switchVal : List UInt8) : Checked (List UInt8) :=
  strcpy (strlen switchVal + 17)
    (asciiBytes "[\"timerAction\"," ++ cString switchVal ++ asciiBytes "]")

section Unions

variable {print : CJsonItem → List UInt8} {item action : CJsonItem} {timer timed : IotgoTimer}

theorem timing_keeps_action {behind text : List UInt8} {typed : IotgoTimer}
    (timing : getTiming behind typed text = .ok (some timed)) :
    timed.timeAction = typed.timeAction := by
  unfold getTiming at timing
  split at timing
  · rcases Option.map_eq_some_iff.1 (Except.ok.inj timing) with ⟨gmt, -, rfl⟩
    rfl
  · rcases bind_ok_iff.1 timing with ⟨cron, -, set⟩
    rcases Option.map_eq_some_iff.1 (Except.ok.inj set) with ⟨cron, -, rfl⟩
    rfl
  · rcases Option.bind_eq_some_iff.1 (Except.ok.inj timing) with ⟨parsed, -, set⟩
    rcases Option.map_eq_some_iff.1 set with ⟨gmt, -, rfl⟩
    rfl
  · cases timing

theorem head_keeps_action {start typed : IotgoTimer}
    (head : ((getTimerId start item).bind (getTimerEnabled · item)).bind (getTimerType · item) =
      some typed) : typed.timeAction = start.timeAction := by
  rcases Option.bind_eq_some_iff.1 head with ⟨enabled, before, typeDone⟩
  rcases Option.bind_eq_some_iff.1 before with ⟨numbered, idDone, enabledDone⟩
  unfold getTimerId at idDone
  unfold getTimerEnabled at enabledDone
  unfold getTimerType at typeDone
  split at idDone
  · split at enabledDone
    · split at typeDone
      · split at typeDone
        · cases typeDone
        · cases idDone
          cases enabledDone
          cases typeDone
          rfl
      · cases typeDone
    · cases enabledDone
  · cases idDone

theorem made_action {behind : List UInt8}
    (made : generateTimer print behind .zero item = .ok (some timer)) :
    ∃ timed, timed.timeAction = (fun _ => 0) ∧
      getTimerAction print timed item = .ok (some timer) := by
  rcases generate_timer_parts made with ⟨typed, timed, head, timing, done⟩
  rcases get_timer_at_parts timing with ⟨memory, -, -, set⟩
  refine ⟨timed, ?_, done⟩
  rw [timing_keeps_action set]
  exact head_keeps_action head

theorem end_do_of_fn (timer : IotgoTimer) :
    endDo timer = List.ofFn fun index : Fin 100 =>
      timer.timeAction ⟨100 + index, Nat.add_lt_add_left index.isLt 100⟩ := by
  unfold endDo actionFrom
  apply List.ext_getElem
  · rw [List.length_drop, List.length_ofFn, List.length_ofFn]
  · intro index left right
    rw [List.getElem_drop, List.getElem_ofFn, List.getElem_ofFn]

theorem end_do_text {text : List UInt8} {memory : Fin 200 → UInt8} (nulFree : (0 : UInt8) ∉ text)
    (short : text.length < 100)
    (bytes : timer.timeAction = placed 100 (padded 100 text) memory) :
    cString (endDo timer) = text := by
  rw [end_do_of_fn]
  apply c_string_of_fn nulFree short
  intro index inside
  rw [bytes, placed, if_pos (Nat.le_add_right _ _), Nat.add_sub_cancel_left]
  exact padded_get (Nat.le_of_lt short) index.isLt _

theorem end_do_cleared {text : List UInt8} (short : text.length < 100)
    (bytes : timer.timeAction = placed 0 (padded 100 text) fun _ => 0) :
    cString (endDo timer) = [] := by
  have width : (padded 100 text).length = 100 := by
    rw [padded, List.length_append, List.length_replicate]
    omega
  rw [end_do_of_fn]
  apply c_string_of_fn (List.not_mem_nil) (by decide)
  intro index _
  rw [bytes, placed, if_pos (Nat.zero_le _), Nat.sub_zero,
    List.getD_eq_default _ _ (by rw [width]; exact Nat.le_add_right _ _), List.getD_nil]

theorem made_do {behind : List UInt8}
    (made : generateTimer print behind .zero item = .ok (some timer))
    (found : cJSONGetObjectItem item (asciiBytes "do") = some action) :
    action.type = .object ∧ cString (actionDo timer) = cString (print action) ∧
      cString (endDo timer) = [] := by
  rcases made_action made with ⟨timed, cleared, done⟩
  rw [getTimerAction, found] at done
  dsimp only at done
  split at done
  · cases done
  · rename_i object
    rcases bind_ok_iff.1 done with ⟨stored, store, last⟩
    rcases store_action_parts store with ⟨fits, rfl⟩
    cases last
    rw [cleared]
    refine ⟨not_not.1 object, ?_, end_do_cleared fits rfl⟩
    exact action_do_text (c_string_nul_free _) fits fun _ _ => rfl

theorem made_start_end {behind : List UInt8}
    (made : generateTimer print behind .zero item = .ok (some timer))
    (missing : cJSONGetObjectItem item (asciiBytes "do") = none) :
    ∃ startDo finalDo, cJSONGetObjectItem item (asciiBytes "startDo") = some startDo ∧
      cJSONGetObjectItem item (asciiBytes "endDo") = some finalDo ∧
      startDo.type = .object ∧ finalDo.type = .object ∧
      cString (actionDo timer) = cString (print startDo) ∧
      cString (endDo timer) = cString (print finalDo) := by
  rcases made_action made with ⟨timed, -, done⟩
  rw [getTimerAction, missing] at done
  dsimp only at done
  split at done
  · rename_i startDo finalDo start final
    split at done
    · cases done
    · rename_i objects
      rw [not_or, not_not, not_not] at objects
      rcases bind_ok_iff.1 done with ⟨started, first, later⟩
      rcases bind_ok_iff.1 later with ⟨stored, second, last⟩
      rcases store_action_parts first with ⟨fits, rfl⟩
      rcases store_action_parts second with ⟨fits', rfl⟩
      cases last
      refine ⟨startDo, finalDo, start, final, objects.1, objects.2, ?_, ?_⟩
      · refine @action_do_text _ _ timed.timeAction (c_string_nul_free _) fits fun index low => ?_
        dsimp only
        rw [placed, if_neg (by omega)]
      · exact end_do_text (c_string_nul_free _) fits' rfl
  · cases done

end Unions

section Callback

variable {action : List UInt8}

theorem switch_action_data (action : List UInt8) :
    switchActionCallback action =
      .ok (asciiBytes "[\"timerAction\"," ++ cString action ++ asciiBytes "]") := by
  have whole : (0 : UInt8) ∉ asciiBytes "[\"timerAction\"," ++ cString action ++ asciiBytes "]" := by
    rw [List.mem_append, List.mem_append, not_or, not_or]
    exact ⟨⟨by decide, c_string_nul_free action⟩, by decide⟩
  refine strcpy_ok_iff.2 ⟨?_, (c_string_of_nul_free whole).symm⟩
  rw [strlen, c_string_of_nul_free whole, List.length_append, List.length_append, strlen]
  change 15 + (cString action).length + 1 < (cString action).length + 17
  omega

/-- What the callback makes of the action is an array. -/
def Queueable (action : List UInt8) : Prop :=
  ∃ data, switchActionCallback action = .ok data ∧ JsonText data ∧ data.head? = some 91

theorem queueable_of_json (json : JsonText (cString action)) : Queueable action := by
  have body : StringBody (asciiBytes "timerAction") := string_body_of_plain (by decide)
  refine ⟨_, switch_action_data action, ?_, rfl⟩
  have pair := json_pair body json
  simpa [joined, asciiBytes] using pair

theorem empty_not_queueable (empty : cString action = []) : ¬Queueable action := by
  rintro ⟨data, made, json, -⟩
  rw [switch_action_data, empty] at made
  cases made
  exact no_trailing_comma json (asciiBytes "\"timerAction\"") rfl

end Callback

section Calls

variable {print : CJsonItem → List UInt8} {unset : Int} {now : IoTgoGMTTime}
  {timer : Fin iotgoTimerNum → IotgoTimer} {slots : List (Fin iotgoTimerNum)}

theorem mem_called_iff {called : IotgoTimer} {action : List UInt8} :
    action ∈ calledOf unset now called ↔
      ∃ left actions, dealTimer unset now called = some (left, actions) ∧ action ∈ actions := by
  unfold calledOf
  cases dealTimer unset now called with
  | none => simp
  | some result =>
      obtain ⟨left, actions⟩ := result
      simp

theorem mem_deal_calls_iff (sound : ∀ slot, faults unset now (timer slot) = false)
    {call : Fin iotgoTimerNum × List UInt8} :
    call ∈ dealCalls unset now timer slots ↔
      call.1 ∈ slots ∧ call.2 ∈ calledOf unset now (timer call.1) := by
  obtain ⟨slot, action⟩ := call
  induction slots with
  | nil => simp [dealCalls]
  | cons first rest ih =>
      rw [dealCalls]
      cases pass : dealTimer unset now (timer first) with
      | none =>
          rw [deal_timer_faults, sound first] at pass
          cases pass
      | some result =>
          have first' : calledOf unset now (timer first) = result.2 := by
            rw [calledOf, pass]
            rfl
          dsimp only
          rw [List.mem_append, List.mem_map, ih, List.mem_cons]
          constructor
          · rintro (⟨called, member, same⟩ | ⟨later, member⟩)
            · cases same
              exact ⟨.inl rfl, first' ▸ member⟩
            · exact ⟨.inr later, member⟩
          · rintro ⟨rfl | later, member⟩
            · exact .inl ⟨action, first' ▸ member, rfl⟩
            · exact .inr ⟨later, member⟩

/-- The timer has reached the end of its duration. -/
def Ending (unset : Int) (now : IoTgoGMTTime) (timer : IotgoTimer) : Prop :=
  active timer = true ∧ timer.type = .duration ∧
    durationCompareWithNow unset now (gmtOf timer) timer.timeInterval timer.timeDuration =
      some .ends

theorem called_cases {called : IotgoTimer} {action : List UInt8}
    (member : action ∈ calledOf unset now called) :
    action = actionDo called ∨ (action = endDo called ∧ Ending unset now called) := by
  rcases mem_called_iff.1 member with ⟨left, actions, pass, inside⟩
  unfold dealTimer at pass
  by_cases inactive : active called = false
  · rw [if_pos inactive] at pass
    cases pass
    cases inside
  · rw [if_neg inactive] at pass
    rw [Bool.not_eq_false] at inactive
    cases kind : called.type with
    | once =>
        rw [kind] at pass
        dsimp only at pass
        split at pass
        · cases pass
          exact .inl (List.mem_singleton.1 inside)
        · cases pass
          cases inside
    | «repeat» =>
        rw [kind] at pass
        dsimp only at pass
        split at pass
        · cases pass
          exact .inl (List.mem_singleton.1 inside)
        · cases pass
          cases inside
    | invalid =>
        rw [kind] at pass
        cases pass
        cases inside
    | duration =>
        rw [kind] at pass
        dsimp only at pass
        split at pass
        · cases pass
        · cases pass
          exact .inl (List.mem_singleton.1 inside)
        · rename_i ends
          cases pass
          exact .inr ⟨List.mem_singleton.1 inside, inactive, kind, ends⟩
        · cases pass
          cases inside

theorem called_used {called : IotgoTimer} {action : List UInt8}
    (member : action ∈ calledOf unset now called) : called.id ≠ 0 := by
  intro unused
  have inactive : active called = false := by
    simp [active, unused]
  rw [calledOf, dealTimer, if_pos inactive] at member
  cases member

theorem ending_calls {called : IotgoTimer} (ending : Ending unset now called) :
    endDo called ∈ calledOf unset now called := by
  have inactive : ¬active called = false := Bool.not_eq_false _ ▸ ending.1
  rw [mem_called_iff]
  refine ⟨called, [endDo called], ?_, List.mem_singleton_self _⟩
  unfold dealTimer
  rw [if_neg inactive, ending.2.1]
  dsimp only
  rw [ending.2.2]

theorem end_inside {minute timeInterval timeDuration : UInt32} {full : Prop}
    (begins : ¬(timeInterval ≠ 0 ∧ minute % timeInterval = 0 ∧ full)) (divides : timeInterval ≠ 0)
    (reaches : minute % timeInterval % timeDuration = 0 ∧ full) : timeDuration < timeInterval := by
  have left : minute % timeInterval ≠ 0 := fun whole => begins ⟨divides, whole, reaches.2⟩
  have below : (minute % timeInterval).toNat < timeInterval.toNat := by
    rw [UInt32.toNat_mod]
    apply Nat.mod_lt
    exact Nat.pos_of_ne_zero fun zero => divides (UInt32.toNat_inj.1 zero)
  rw [UInt32.lt_iff_toNat_lt]
  by_contra long
  have whole := congrArg UInt32.toNat reaches.1
  rw [UInt32.toNat_mod, Nat.mod_eq_of_lt (below.trans_le (Nat.le_of_not_lt long))] at whole
  exact left (UInt32.toNat_inj.1 whole)

theorem duration_ends_inside {gmt : IoTgoGMTTime} {timeInterval timeDuration : UInt32}
    (ends : durationCompareWithNow unset now gmt timeInterval timeDuration = some .ends) :
    timeDuration ≠ 0 ∧ timeDuration < timeInterval := by
  unfold durationCompareWithNow at ends
  dsimp only at ends
  split at ends
  · cases ends
  · split at ends
    · cases ends
    · rename_i begins
      split at ends
      · cases ends
      · rename_i lasting
        split at ends
        · cases ends
        · rename_i divides
          split at ends
          · rename_i reaches
            exact ⟨lasting, end_inside begins divides reaches⟩
          · cases ends

end Calls

section Configured

variable {print : CJsonItem → List UInt8} {unset : Int} {now : IoTgoGMTTime}
  {config : Configuration} {item : CJsonItem} {timer : IotgoTimer}

/-- The text is the one of an action of the object, and with it the callback makes an array. -/
structure Told (print : CJsonItem → List UInt8) (config : Configuration)
    (call : Fin iotgoTimerNum × List UInt8) : Prop where
  configured : ∃ item, config call.1 = some item ∧
    ∃ action ∈ actionMembers item, cString call.2 = cString (print action.2)
  present : cString call.2 ≠ []
  message : Queueable call.2

/-- What the union holds of the actions of the object. -/
structure Holds (print : CJsonItem → List UInt8) (item : CJsonItem) (timer : IotgoTimer) :
    Prop where
  first : ∃ action ∈ actionMembers item,
    action.2.type = .object ∧ cString (actionDo timer) = cString (print action.2)
  last : cJSONGetObjectItem item (asciiBytes "do") = none → ∃ action ∈ actionMembers item,
    action.2.type = .object ∧ cString (endDo timer) = cString (print action.2)
  none : cJSONGetObjectItem item (asciiBytes "do") ≠ none → cString (endDo timer) = []

theorem origin_holds (origin : Origin print item timer) : Holds print item timer := by
  rcases origin with ⟨behind, generated, made, same⟩
  have first : actionDo timer = actionDo generated := by
    rw [same]
    rfl
  have last : endDo timer = endDo generated := by
    rw [same]
    rfl
  cases found : cJSONGetObjectItem item (asciiBytes "do") with
  | some action =>
      rcases made_do made found with ⟨object, text, empty⟩
      refine ⟨⟨("do", action), ?_, object, by rw [first, text]⟩, ?_, fun _ => by rw [last, empty]⟩
      · rw [actionMembers, found]
        exact List.mem_singleton_self _
      · intro missing
        rw [found] at missing
        cases missing
  | none =>
      rcases made_start_end made found with
        ⟨startDo, finalDo, start, final, object, object', text, text'⟩
      have both : actionMembers item = [("startDo", startDo), ("endDo", finalDo)] := by
        rw [actionMembers, found]
        simp [start, final]
      refine ⟨⟨("startDo", startDo), ?_, object, by rw [first, text]⟩,
        fun _ => ⟨("endDo", finalDo), ?_, object', by rw [last, text']⟩,
        fun present => absurd found present⟩
      · rw [both]
        exact List.mem_cons_self
      · rw [both]
        exact List.mem_cons_of_mem _ (List.mem_singleton_self _)

/-- The timer ends, and the object has no action for that. -/
def EndsSilently (unset : Int) (now : IoTgoGMTTime) (item : CJsonItem) (timer : IotgoTimer) :
    Prop :=
  Ending unset now timer ∧ cJSONGetObjectItem item (asciiBytes "do") ≠ none

/-- The actions of the object are printed as JSON. -/
def Writable (double : CDouble) (item : CJsonItem) : Prop :=
  ∀ action ∈ actionMembers item,
    Every (fun valueint valuedouble => IsInt valueint ∧ Decimal double valueint valuedouble)
      (fun _ => True) action.2

theorem told_of_text {double : CDouble} (writable : Writable double item)
    {slot : Fin iotgoTimerNum} {text : List UInt8} (configured : config slot = some item)
    (holds : ∃ action ∈ actionMembers item,
      action.2.type = .object ∧ cString text = cString (printText double action.2)) :
    Told (printText double) config (slot, text) := by
  rcases holds with ⟨action, member, object, same⟩
  have numbers := writable action member
  have json : JsonText (cString text) := by
    rw [same, c_string_print_text (every_mono (fun _ _ both => both.1) (fun _ is => is) numbers)]
    exact item_text_json false (every_mono (fun _ _ both => both.2) (fun _ is => is) numbers) 0
  exact ⟨⟨item, configured, action, member, same⟩, (json_text_ends_well json).1,
    queueable_of_json json⟩

theorem told_iff {double : CDouble} {state : ManagerState}
    (follows : FollowsConfig (printText double) state)
    (writable : ∀ slot item, state.config slot = some item → Writable double item) (unset : Int)
    (now : IoTgoGMTTime) :
    (∀ call ∈ dealCalls unset now state.timers.table.timer (List.finRange iotgoTimerNum),
        Told (printText double) state.config call) ↔
      ∀ slot item, state.config slot = some item →
        ¬EndsSilently unset now item (state.timers.table.timer slot) := by
  have sound : ∀ slot, faults unset now (state.timers.table.timer slot) = false :=
    deal_time_ends_iff.1 (follows_divides_never follows unset now)
  constructor
  · intro all slot item configured silent
    have here := follows.timers slot
    rw [configured, view] at here
    split at here
    · cases here
    · rcases Option.rel_some_some.1 here with origin
      have called := all (slot, endDo (state.timers.table.timer slot))
        ((mem_deal_calls_iff sound).2 ⟨List.mem_finRange slot, ending_calls silent.1⟩)
      exact called.present ((origin_holds origin).none silent.2)
  · intro quiet call called
    obtain ⟨slot, text⟩ := call
    rcases (mem_deal_calls_iff sound).1 called with ⟨-, member⟩
    dsimp only at member
    have here := follows.timers slot
    have used : state.timers.table.timerId slot ≠ 0 := by
      rw [← follows.table.timers slot]
      exact called_used member
    rw [view, if_neg used] at here
    cases configured : state.config slot with
    | none =>
        rw [configured] at here
        cases here
    | some item =>
        rw [configured] at here
        have holds := origin_holds (Option.rel_some_some.1 here)
        rcases called_cases member with rfl | ⟨rfl, ending⟩
        · exact told_of_text (writable slot item configured) configured holds.first
        · apply told_of_text (writable slot item configured) configured
          apply holds.last
          by_contra present
          exact quiet slot item configured ⟨ending, present⟩

end Configured

section Runs

variable {double : CDouble} {print : CJsonItem → List UInt8} {item : CJsonItem}
  {state next : ManagerState} {timer : IotgoTimer}

/-- A timer with a `do` has no duration that ends before the next one starts. -/
def EndsNever (item : CJsonItem) : Prop :=
  cJSONGetObjectItem item (asciiBytes "do") ≠ none →
    member item "type" = some (.string (asciiBytes "duration")) →
    ∀ text gmt interval duration, member item "at" = some (.string text) →
      parseFromATString text = some (gmt, interval, duration) →
      duration = 0 ∨ interval ≤ duration

/-- The update configures no other objects. -/
def Configures (allowed : CJsonItem → Prop) (state : ManagerState) (event : ManagerEvent) : Prop :=
  Provided event ∧
    match event with
    | .update _ cjsonParams =>
        ∀ slot item, configured state.config cjsonParams slot = some item → allowed item
    | .second _ _ => True
    | .restart _ => True

theorem ends_never_quiet {unset : Int} {now : IoTgoGMTTime} (ends : EndsNever item)
    (origin : Origin print item timer) : ¬EndsSilently unset now item timer := by
  rintro ⟨⟨-, duration, reached⟩, present⟩
  rcases origin_parsed origin duration with ⟨type, text, gmt, timerAt, parsed⟩
  rcases duration_ends_inside reached with ⟨lasting, inside⟩
  rcases ends present type text gmt _ _ timerAt parsed with zero | long
  · exact lasting zero
  · rw [UInt32.lt_iff_toNat_lt] at inside
    rw [UInt32.le_iff_toNat_le] at long
    omega

/-- What is configured is allowed. -/
structure FollowsAllowed (print : CJsonItem → List UInt8) (allowed : CJsonItem → Prop)
    (state : ManagerState) : Prop where
  follows : FollowsConfig print state
  allows : ∀ slot item, state.config slot = some item → allowed item

variable {allowed : CJsonItem → Prop}

theorem step_follows_allowed (state : ManagerState) (event : ManagerEvent) (next : ManagerState)
    (kept : FollowsAllowed print allowed state) (met : Configures allowed state event)
    (taken : ManagerStep print state event next) : FollowsAllowed print allowed next := by
  refine ⟨step_follows state event next kept.follows met.1 taken, ?_⟩
  cases event with
  | update world cjsonParams =>
      rcases taken with ⟨-, reply, -, config⟩
      rw [config]
      split
      · exact met.2
      · exact kept.allows
  | second unset now =>
      rcases taken with ⟨-, config⟩
      rw [config]
      exact kept.allows
  | restart memory =>
      rw [taken]
      exact kept.allows

theorem started_follows_allowed (started : Started print (Configures allowed) state) :
    FollowsAllowed print allowed state := by
  refine ⟨started_follows (fun _ _ configures => configures.1) started, ?_⟩
  induction started with
  | erased state =>
      intro slot item configured
      cases configured
  | saved earlier met run ih =>
      have kept := keeps_of_meets (FollowsAllowed print allowed) step_follows_allowed
        ⟨started_follows (fun _ _ configures => configures.1) earlier, ih⟩ met
      exact (keeps_final kept run).allows

/-- The actions that `timerDealTime` runs, each with its slot. -/
def Deals (unset : Int) (now : IoTgoGMTTime) (table : TimerTable)
    (calls : List (Fin iotgoTimerNum × List UInt8)) : Prop :=
  calls = dealCalls unset now table.timer (List.finRange iotgoTimerNum) ∧
    ∃ after, timerDealTime unset now table = some (after, calls.map Prod.snd)

theorem follows_deals (follows : FollowsConfig print state) (unset : Int) (now : IoTgoGMTTime) :
    ∃ calls, Deals unset now state.timers.table calls := by
  rcases follows_divides_never follows unset now with ⟨after, actions, dealt⟩
  refine ⟨_, rfl, after, ?_⟩
  rw [dealt, deal_time_actions dealt]

/-- In every state of a run the actions are the configured ones, but for timers that end with
no action for it; where none of these is configured, all of them are. -/
theorem actions_told_iff (double : CDouble) {start : ManagerState} (events : List ManagerEvent) :
    (Started (printText double) (Configures (Writable double)) start →
      Meets (ManagerStep (printText double)) (Configures (Writable double)) start events →
      Keeps (ManagerStep (printText double))
        (fun state => ∀ unset now, ∃ calls, Deals unset now state.timers.table calls ∧
          ((∀ call ∈ calls, Told (printText double) state.config call) ↔
            ∀ slot item, state.config slot = some item →
              ¬EndsSilently unset now item (state.timers.table.timer slot))) start events) ∧
    (Started (printText double) (Configures fun item => Writable double item ∧ EndsNever item)
        start →
      Meets (ManagerStep (printText double))
        (Configures fun item => Writable double item ∧ EndsNever item) start events →
      Keeps (ManagerStep (printText double))
        (fun state => ∀ unset now, ∃ calls, Deals unset now state.timers.table calls ∧
          ∀ call ∈ calls, Told (printText double) state.config call) start events) := by
  constructor
  · intro started met
    apply keeps_mono _ (keeps_of_meets (FollowsAllowed (printText double) (Writable double))
      step_follows_allowed (started_follows_allowed started) met)
    intro state kept unset now
    rcases follows_deals kept.follows unset now with ⟨calls, dealt⟩
    refine ⟨calls, dealt, ?_⟩
    rw [dealt.1]
    exact told_iff kept.follows kept.allows unset now
  · intro started met
    apply keeps_mono _ (keeps_of_meets (FollowsAllowed (printText double) _)
      step_follows_allowed (started_follows_allowed started) met)
    intro state kept unset now
    rcases follows_deals kept.follows unset now with ⟨calls, dealt⟩
    refine ⟨calls, dealt, ?_⟩
    rw [dealt.1]
    apply (told_iff kept.follows (fun slot item set => (kept.allows slot item set).1) unset now).2
    intro slot item configured
    have here := kept.follows.timers slot
    rw [configured, view] at here
    split at here
    · cases here
    · exact ends_never_quiet (kept.allows slot item configured).2 (Option.rel_some_some.1 here)

end Runs

section Instances

def newTimers (item : CJsonItem) : CJsonItem :=
  .object [(asciiBytes "timerAct", .string (asciiBytes "new")),
    (asciiBytes "timer", .array [item])]

def erasedStart : ManagerState :=
  ⟨timerInit .granted (timerFlashErase true ⟨.zero, fun _ => 0xFF⟩).flash, fun _ => none⟩

/-- Nine minutes in every hour, with a `do`. -/
def durationDo : CJsonItem :=
  .object [(asciiBytes "id", .number 0 0), (asciiBytes "enabled", .number 1 1),
    (asciiBytes "type", .string (asciiBytes "duration")),
    (asciiBytes "at", .string (asciiBytes "2016-01-01T08:00:00.000Z 60 9")),
    (asciiBytes "do", switchOn)]

def ninePastEight : IoTgoGMTTime where
  year := 2016
  month := 1
  day := 1
  hour := 8
  minute := 9
  second := 0

theorem erased_timers : erasedStart.timers.table = .zero := by
  have loaded := loaded_erased ⟨.zero, fun _ => 0xFF⟩
  unfold erasedStart
  generalize (timerFlashErase true ⟨.zero, fun _ => 0xFF⟩).flash = flash at loaded ⊢
  exact congrArg TimerState.table (@load_of_loaded .granted rfl ⟨.zero, flash⟩ _ loaded)

theorem new_configured {item other : CJsonItem} {slot : Fin iotgoTimerNum}
    (set : configured (fun _ => none) (newTimers item) slot = some other) : other = item := by
  have only : configured (fun _ => none) (newTimers item) slot =
      if slot.val = 0 then some item else none := by
    fin_cases slot <;> rfl
  rw [only] at set
  split at set
  · exact (Option.some.inj set).symm
  · cases set

theorem new_configures {allowed : CJsonItem → Prop} {item : CJsonItem} (fits : allowed item) :
    Configures allowed erasedStart (.update cjsonWorld (newTimers item)) := by
  refine ⟨rfl, fun slot other set => ?_⟩
  rw [new_configured set]
  exact fits

theorem switch_numbers {action : CJsonItem} (switch : action = switchOn ∨ action = switchOff) :
    Every (fun valueint valuedouble => IsInt valueint ∧ Decimal unrounded valueint valuedouble)
      (fun _ => True) action := by
  rcases switch with rfl | rfl <;>
    exact .object (fun _ _ => trivial) (List.forall_mem_singleton.2 (.string trivial))

theorem ok_of_to_option {Value : Type} {run : Checked Value} {value : Value}
    (ended : run.toOption = some value) : run = .ok value := by
  cases run with
  | error fault => cases ended
  | ok other =>
      cases ended
      rfl

/-- The update is done, and of the actions at that time one is empty. -/
def silentCalls (done : TimerState × TimerReply) : Bool :=
  decide (done.2.result = .error0) &&
    (dealCalls 0 ninePastEight done.1.table.timer (List.finRange iotgoTimerNum)).any fun call =>
      decide (cString call.2 = [])

theorem added_timer :
    ∃ done, timerProcUpdate cjsonWorld erasedStart.timers (newTimers durationDo) = .ok done ∧
      done.2.result = .error0 ∧
      ∃ call ∈ dealCalls 0 ninePastEight done.1.table.timer (List.finRange iotgoTimerNum),
        cString call.2 = [] := by
  have same : erasedStart.timers = ⟨.zero, erasedStart.timers.flash⟩ := by
    rw [← erased_timers]
  have computed : (timerProcUpdate cjsonWorld ⟨.zero, erasedStart.timers.flash⟩
      (newTimers durationDo)).toOption.any silentCalls = true := by
    decide +kernel
  rw [← same] at computed
  rcases (Option.any_eq_true _ _).1 computed with ⟨done, ended, silent⟩
  rw [silentCalls, Bool.and_eq_true, decide_eq_true_eq, List.any_eq_true] at silent
  rcases silent with ⟨success, call, member, empty⟩
  exact ⟨done, ok_of_to_option ended, success, call, member, of_decide_eq_true empty⟩

theorem duration_do_writable : Writable unrounded durationDo := by
  have actions : actionMembers durationDo = [("do", switchOn)] := rfl
  rw [Writable, actions]
  exact List.forall_mem_singleton.2 (switch_numbers (.inl rfl))

/-- The timer ends at nine minutes past eight, and the text that runs is empty. -/
theorem duration_ends_silently :
    Started (printText unrounded) (Configures (Writable unrounded)) erasedStart ∧
      Configures (Writable unrounded) erasedStart (.update cjsonWorld (newTimers durationDo)) ∧
      ∃ state, Run (ManagerStep (printText unrounded)) erasedStart
          [.update cjsonWorld (newTimers durationDo)] state ∧
        ∃ call ∈ dealCalls 0 ninePastEight state.timers.table.timer
            (List.finRange iotgoTimerNum), ¬Told (printText unrounded) state.config call := by
  refine ⟨.erased _, new_configures duration_do_writable, ?_⟩
  rcases added_timer with ⟨done, ended, success, call, member, empty⟩
  refine ⟨⟨done.1, _⟩, .cons ⟨rfl, done.2, ended, rfl⟩ .nil, call, member, ?_⟩
  exact fun told => told.present empty

/-- Nine minutes in every hour, with both actions. -/
def durationStartEnd : CJsonItem :=
  .object [(asciiBytes "id", .number 0 0), (asciiBytes "enabled", .number 1 1),
    (asciiBytes "type", .string (asciiBytes "duration")),
    (asciiBytes "at", .string (asciiBytes "2016-01-01T08:00:00.000Z 60 9")),
    (asciiBytes "startDo", switchOn), (asciiBytes "endDo", switchOff)]

theorem start_end_allowed :
    Writable unrounded durationStartEnd ∧ EndsNever durationStartEnd := by
  have actions : actionMembers durationStartEnd =
      [("startDo", switchOn), ("endDo", switchOff)] := rfl
  refine ⟨?_, fun present => absurd rfl present⟩
  rw [Writable, actions]
  exact List.forall_mem_cons.2 ⟨switch_numbers (.inl rfl),
    List.forall_mem_singleton.2 (switch_numbers (.inr rfl))⟩

/-- A timer with both actions is added, and the clock goes to its end. -/
theorem start_end_told :
    Keeps (ManagerStep (printText unrounded))
      (fun state => ∀ unset now, ∃ calls, Deals unset now state.timers.table calls ∧
        ∀ call ∈ calls, Told (printText unrounded) state.config call) erasedStart
      [.update cjsonWorld (newTimers durationStartEnd), .second 0 ninePastEight] := by
  apply (actions_told_iff unrounded
    [.update cjsonWorld (newTimers durationStartEnd), .second 0 ninePastEight]).2
  · exact .erased _
  · exact ⟨new_configures start_end_allowed,
      fun _ _ => ⟨⟨trivial, trivial⟩, fun _ _ => trivial⟩⟩

end Instances

end IotgoFirmware.Mcu.TimerActions
