import IotgoFirmware.Mcu.CmdDispatch
import IotgoFirmware.Mcu.SwitchCallbacks
import IotgoFirmware.Timers.TimerRuns

/-!
# The timers between the server and the MCU

Messages of the server and commands of the MCU change the same tables. Whatever either of
them sends, a handler that gets through leaves the timers as a request does, so that the
invariant of the tables holds in every run of both with the clock.
-/

namespace IotgoFirmware.Mcu.TimerTraffic

open IotgoFirmware.Core.PkgScan
open IotgoFirmware.Library.CFaults
open IotgoFirmware.Library.CJsonItems
open IotgoFirmware.Library.CStrings
open IotgoFirmware.Library.NorFlash
open IotgoFirmware.Library.StepRuns
open IotgoFirmware.Mcu.CmdDispatch
open IotgoFirmware.Mcu.CmdHandlers
open IotgoFirmware.Mcu.SwitchCallbacks
open IotgoFirmware.Timers.TimerFlash
open IotgoFirmware.Timers.TimerMap
open IotgoFirmware.Timers.TimerProc
open IotgoFirmware.Timers.TimerRequests
open IotgoFirmware.Timers.TimerRuns
open IotgoFirmware.Uart.U2artSchedule (U2artError)

set_option autoImplicit false

/-- The timers are as they were, or one request was done or refused. -/
def AfterRequest (memory : BlockMemory) (before after : TimerState) : Prop :=
  after = before ∨ ∃ request reply, timerRequest memory before request = some (after, reply)

theorem after_requested {world : TimerWorld} {before : TimerState}
    {done : TimerState × TimerReply} (requested : Requested world before done) :
    AfterRequest world.memory before done.1 := by
  rcases requested with same | ⟨request, -, answered⟩
  · exact .inl same
  · exact .inr ⟨request, done.2, answered⟩

section Messages

variable {world : TimerWorld} {state next : SwitchState}

theorem add_message_timers {opening : String} {more : Nat}
    {cjsonSequence cjsonParams : Option CJsonItem}
    (done : addMessage world state opening more cjsonSequence cjsonParams = .ok next) :
    next.timers = state.timers := by
  rcases bind_ok_iff.1 done with ⟨params, -, later⟩
  rcases bind_ok_iff.1 later with ⟨sequence, -, copied⟩
  rcases bind_ok_iff.1 copied with ⟨data, -, last⟩
  cases last
  rfl

theorem update_params_timers {cjsonSequence : Option CJsonItem} {cjsonParams : CJsonItem}
    (done : updateParams world state cjsonSequence cjsonParams = .ok next) :
    AfterRequest world.memory state.timers next.timers := by
  unfold updateParams at done
  split at done
  · rcases bind_ok_iff.1 done with ⟨result, proc, last⟩
    have requested := after_requested (timer_proc_update_requested proc)
    split at last
    · cases last
      exact requested
    · cases last
      exact requested
  · dsimp only at done
    split at done
    · exact .inl (add_message_timers done)
    · cases done
      exact .inl rfl

theorem update_callback_timers {data : List UInt8}
    (done : switchReqUpdateCallback world state data = .ok next) :
    AfterRequest world.memory state.timers next.timers := by
  rcases bind_ok_iff.1 done with ⟨cjsonRoot, -, later⟩
  rcases bind_ok_iff.1 later with ⟨stored, sequence, last⟩
  rw [← update_sequence_timers sequence]
  split at last
  · cases last
    exact .inl rfl
  · exact update_params_timers last

theorem query_params_timers {cjsonSequence cjsonParams : CJsonItem}
    (done : queryParams world state cjsonSequence cjsonParams = .ok next) :
    next.timers = state.timers := by
  unfold queryParams at done
  split at done
  · cases done
    rfl
  · rcases bind_ok_iff.1 done with ⟨act, -, later⟩
    split at later
    · rcases bind_ok_iff.1 later with ⟨reply, -, last⟩
      cases last
      rfl
    · exact add_message_timers later

theorem query_callback_timers {data : List UInt8}
    (done : switchReqQueryCallback world state data = .ok next) :
    next.timers = state.timers := by
  rcases bind_ok_iff.1 done with ⟨cjsonRoot, -, later⟩
  split at later
  · cases later
    rfl
  · rcases bind_ok_iff.1 later with ⟨stored, sequence, last⟩
    rw [← store_sequence_timers sequence]
    split at last
    · cases last
      rfl
    · split at last
      · exact query_params_timers last
      · cases last
        rfl

theorem resp_callback_timers {data : List UInt8}
    (done : switchRespQueryCallback world state data = .ok next) :
    next.timers = state.timers := by
  rcases bind_ok_iff.1 done with ⟨cjsonRoot, -, later⟩
  split at later
  · cases later
    rfl
  · split at later
    · cases later
      rfl
    · dsimp only at later
      split at later
      · exact add_message_timers later
      · split at later
        · rcases bind_ok_iff.1 later with ⟨text, -, last⟩
          cases last
          rfl
        · cases later
          rfl

theorem callback_timers {type : IoTgoPkgType} {data : List UInt8}
    (done : callback world state type data = .ok next) : AfterRequest world.memory state.timers next.timers := by
  unfold callback at done
  split at done
  · exact update_callback_timers done
  · exact .inl (query_callback_timers done)
  · exact .inl (resp_callback_timers done)
  · cases done
    exact .inl rfl

end Messages

section Commands

/-- A handler that gets through leaves the timers as one request does. -/
def Leaves (memory : BlockMemory) (timers : TimerState) (run : CmdRun) : Prop :=
  ∀ result, run = .ok result → AfterRequest memory timers result.2.timers

variable {world : TimerWorld} {reads : CmdReads} {state next : CmdState} {root : CJsonItem}
  {run : CmdRun}

theorem leaves_ok {result : U2artError × CmdState} (same : result.2.timers = state.timers) :
    Leaves world.memory state.timers (.ok result) := by
  intro other done
  cases done
  exact .inl same

theorem leaves_send_text {text : List UInt8} (same : next.timers = state.timers) :
    Leaves world.memory state.timers (.ok (sendText next text)) := by
  apply leaves_ok
  unfold sendText
  split
  · exact same
  · exact same

theorem leaves_ite {condition : Prop} [Decidable condition] {left right : CmdRun}
    (first : Leaves world.memory state.timers left) (second : Leaves world.memory state.timers right) :
    Leaves world.memory state.timers (if condition then left else right) := by
  split
  · exact first
  · exact second

theorem leaves_without_args (left : Leaves world.memory state.timers run) :
    Leaves world.memory state.timers (withoutArgs state root run) :=
  leaves_ite (leaves_ok rfl) left

theorem leaves_with_number {run : Int → CmdRun}
    (left : ∀ valueint, Leaves world.memory state.timers (run valueint)) :
    Leaves world.memory state.timers (withNumber state root run) := by
  refine leaves_ite (leaves_ok rfl) ?_
  cases cJSONGetArrayItem root 1 with
  | none => exact leaves_ok rfl
  | some item => exact leaves_ite (leaves_ok rfl) (left _)

theorem leaves_buffer {size : Nat} {parts : List (List UInt8)} :
    Leaves world.memory state.timers (sendBuffer state size parts) := by
  intro result done
  rcases bind_ok_iff.1 done with ⟨temp, -, last⟩
  exact leaves_send_text rfl result last

theorem leaves_mac {size : Nat} {mac : Option (Fin 6 → UInt8)} :
    Leaves world.memory state.timers (sendMac state size mac) := by
  intro result done
  rcases bind_ok_iff.1 done with ⟨temp, -, last⟩
  split at last
  · exact leaves_send_text rfl result last
  · exact leaves_ok rfl result last

theorem leaves_update_timers {cjsonTimer : CJsonItem} :
    Leaves world.memory state.timers (updateTimers world state cjsonTimer) := by
  intro result done
  rcases bind_ok_iff.1 done with ⟨updated, proc, last⟩
  cases last
  exact after_requested (timer_proc_update_requested proc)

theorem leaves_baud : Leaves world.memory state.timers (processBaudCmd state root) := by
  refine leaves_with_number fun valueint => leaves_ite (leaves_ok rfl) ?_
  dsimp only
  rw [send_ret_zero, if_pos rfl]
  exact leaves_ok rfl

theorem leaves_crc : Leaves world.memory state.timers (processCrcCmd state root) := by
  refine leaves_with_number fun valueint => ?_
  dsimp only
  rw [send_ret_zero, if_pos rfl]
  exact leaves_ok rfl

theorem leaves_dog : Leaves world.memory state.timers (processDogCmd state root) := by
  refine leaves_with_number fun valueint => leaves_ite (leaves_ok rfl) (leaves_send_text ?_)
  split
  · rfl
  · rfl

theorem leaves_state_info : Leaves world.memory state.timers (processStateInfoCmd state root) := by
  refine leaves_with_number fun valueint => leaves_send_text ?_
  split
  · rfl
  · rfl

theorem leaves_setting : Leaves world.memory state.timers (processSettingCmd reads state root) := by
  refine leaves_with_number fun valueint => ?_
  cases dealSettingMode reads valueint with
  | error answer => exact leaves_ok rfl
  | ok effects => exact leaves_send_text rfl

theorem leaves_respond : Leaves world.memory state.timers (processRespondCmd reads state root) := by
  unfold processRespondCmd
  dsimp only
  split
  · exact leaves_send_text rfl
  · exact leaves_ok rfl
  · exact leaves_ok rfl
  · exact leaves_ok rfl

theorem leaves_with_param :
    Leaves world.memory state.timers (processTimerUpdateWithParamCmd world state root) := by
  refine leaves_ite (leaves_ok rfl) ?_
  split
  · split
    · exact leaves_ok rfl
    · exact leaves_update_timers
  · exact leaves_ok rfl

theorem leaves_timer_update :
    Leaves world.memory state.timers (processTimerUpdateCmd world reads state root) := by
  refine leaves_ite (leaves_ok rfl) ?_
  split
  · refine leaves_ite (leaves_ok rfl) ?_
    split
    · exact leaves_ok rfl
    · exact leaves_update_timers
  · exact leaves_ok rfl

theorem leaves_query : Leaves world.memory state.timers (processTimerQueryDevCmd world state root) := by
  refine leaves_ite (leaves_ok rfl) ?_
  split
  · intro result done
    rcases bind_ok_iff.1 done with ⟨reply, -, last⟩
    cases last
    exact .inl rfl
  · exact leaves_ok rfl

theorem entry_leaves {name : List UInt8} {action : CJsonItem → CmdRun}
    (listed : (name, action) ∈ tcCmd world reads state) : Leaves world.memory state.timers (action root) := by
  simp only [tcCmd, List.mem_cons, List.not_mem_nil, or_false, Prod.mk.injEq] at listed
  rcases listed with ⟨-, rfl⟩ | ⟨-, rfl⟩ | ⟨-, rfl⟩ | ⟨-, rfl⟩ | ⟨-, rfl⟩ | ⟨-, rfl⟩ | ⟨-, rfl⟩ |
    ⟨-, rfl⟩ | ⟨-, rfl⟩ | ⟨-, rfl⟩ | ⟨-, rfl⟩ | ⟨-, rfl⟩ | ⟨-, rfl⟩ | ⟨-, rfl⟩ | ⟨-, rfl⟩ |
    ⟨-, rfl⟩ | ⟨-, rfl⟩ | ⟨-, rfl⟩ | ⟨-, rfl⟩ | ⟨-, rfl⟩ | ⟨-, rfl⟩ | ⟨-, rfl⟩ | ⟨-, rfl⟩ |
    ⟨-, rfl⟩ | ⟨-, rfl⟩ | ⟨-, rfl⟩ | ⟨-, rfl⟩ | ⟨-, rfl⟩
  · exact leaves_without_args (leaves_send_text rfl)
  · exact leaves_baud
  · exact leaves_dog
  · exact leaves_with_number fun _ => leaves_send_text rfl
  · exact leaves_state_info
  · exact leaves_without_args leaves_buffer
  · exact leaves_ite (leaves_ok rfl) (leaves_without_args leaves_buffer)
  · exact leaves_without_args leaves_buffer
  · exact leaves_setting
  · exact leaves_without_args leaves_buffer
  · exact leaves_without_args leaves_buffer
  · exact leaves_without_args leaves_mac
  · exact leaves_without_args leaves_mac
  · exact leaves_ok rfl
  · exact leaves_respond
  · exact leaves_ok rfl
  · exact leaves_with_param
  · exact leaves_with_param
  · exact leaves_with_param
  · exact leaves_timer_update
  · exact leaves_with_param
  · exact leaves_timer_update
  · exact leaves_with_param
  · exact leaves_timer_update
  · exact leaves_query
  · exact leaves_crc
  · exact leaves_with_number fun _ => leaves_send_text rfl
  · exact leaves_ite (leaves_ok rfl) (leaves_ok rfl)

theorem process_cmd_leaves : Leaves world.memory state.timers (processCmd world reads state root) := by
  refine leaves_ite (leaves_ok rfl) ?_
  split
  · exact leaves_ok rfl
  · intro result done
    rcases bind_ok_iff.1 done with ⟨valuestring, -, later⟩
    split at later
    · rename_i entry found
      exact entry_leaves (List.mem_of_find?_eq_some found) result later
    · exact leaves_ok rfl result later

theorem serve_cmd_timers (done : serveCmd world reads state root = .ok next) :
    AfterRequest world.memory state.timers next.timers := by
  rcases bind_ok_iff.1 done with ⟨result, processed, last⟩
  cases last
  have left := process_cmd_leaves result processed
  unfold processErrorCmd
  split
  · exact left
  · exact left

end Commands

section Traffic

inductive Traffic where
  | message (type : IoTgoPkgType) (data : List UInt8)
  | command (root : CJsonItem)
  | clock (event : TimerEvent)

/-- A message or a command that its handler gets through, whatever the other variables and the
memory around the tables are, or what the device does by itself. There is memory for the flash
functions. -/
def TrafficStep (timers : TimerState) (event : Traffic) (after : TimerState) : Prop :=
  match event with
  | .message type data =>
      ∃ (world : TimerWorld) (state next : SwitchState), state.timers = timers ∧
        world.memory.block = true ∧ callback world state type data = .ok next ∧ after = next.timers
  | .command root =>
      ∃ (world : TimerWorld) (reads : CmdReads) (state next : CmdState), state.timers = timers ∧
        world.memory.block = true ∧ serveCmd world reads state root = .ok next ∧ after = next.timers
  | .clock event => TimerStep timers event after

theorem granted_undone {memory : BlockMemory} (granted : memory.block = true)
    (timers : TimerState) (request : TimerRequest) : Undone timers (.request memory request) := by
  cases request with
  | new batch => exact fun _ _ => granted
  | edit batch => exact trivial
  | del ids => exact trivial
  | enable ids => exact trivial
  | disable ids => exact trivial
  | delAll => exact trivial
  | enableAll => exact trivial
  | disableAll => exact trivial

theorem after_request_sound {memory : BlockMemory} {timers after : TimerState}
    (sound : Sound timers) (granted : memory.block = true)
    (requested : AfterRequest memory timers after) : Sound after := by
  rcases requested with rfl | ⟨request, reply, answered⟩
  · exact sound
  · exact request_sound sound (granted_undone granted timers request) answered

def TrafficUndone (timers : TimerState) (event : Traffic) : Prop :=
  match event with
  | .message _ _ => True
  | .command _ => True
  | .clock event => Undone timers event

theorem traffic_sound (timers : TimerState) (event : Traffic) (after : TimerState)
    (sound : Sound timers) (undone : TrafficUndone timers event)
    (taken : TrafficStep timers event after) : Sound after := by
  cases event with
  | message type data =>
      rcases taken with ⟨world, state, next, rfl, granted, done, rfl⟩
      exact after_request_sound sound granted (callback_timers done)
  | command root =>
      rcases taken with ⟨world, reads, state, next, rfl, granted, done, rfl⟩
      exact after_request_sound sound granted (serve_cmd_timers done)
  | clock event => exact step_sound timers event after sound undone taken

/-- Neither party can bring the tables into disorder: the ids, the timers and the count agree
whatever comes from the two, in any order, as long as every handler gets through. -/
theorem traffic_keeps_tables {image : Flash} (written : Written image) (memory : BlockMemory)
    {events : List Traffic} (met : Meets TrafficStep TrafficUndone (timerInit memory image) events) :
    Keeps TrafficStep (fun timers => TableInvariant timers.table) (timerInit memory image)
      events := by
  have started : Sound (timerInit memory image) :=
    @init_sound ⟨.zero, image⟩ (written_loads written) memory
  exact keeps_mono (fun _ sound => sound.table) (keeps_of_meets Sound traffic_sound started met)

end Traffic

end IotgoFirmware.Mcu.TimerTraffic
