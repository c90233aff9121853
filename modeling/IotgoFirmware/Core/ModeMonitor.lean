import IotgoFirmware.Core.CoreSteps
import IotgoFirmware.Library.Countdowns

/-!
# The restart of the network by the mode monitor

Every second `cbModeMonitorTimer` looks at the mode of the device. Sixty looks in a row that find
it on its way to the server have it join the access point again. Whatever messages, packages and
other timers come in between, `MSG_CORE_JOIN_AP` is posted at every sixtieth such look in a row
and at no other; where it finds room it is handled after what has waited before it.
-/

namespace IotgoFirmware.Core.ModeMonitor

open IotgoFirmware.Library.StepRuns
open IotgoFirmware.Library.Countdowns
open IotgoFirmware.Core.PkgScan
open IotgoFirmware.Core.CoreTask
open IotgoFirmware.Core.CoreSteps
open IotgoFirmware.Receive
open IotgoFirmware.Send.SendJson (IoTgoDeviceMode coreQueueLength)

set_option autoImplicit false

def Joining (mode : IoTgoDeviceMode) : Prop :=
  mode = .workApErr ∨ mode = .workApOk ∨ mode = .workInit

instance (mode : IoTgoDeviceMode) : Decidable (Joining mode) :=
  inferInstanceAs (Decidable (_ ∨ _))

/-- Beside the state run the looks in a row that have found the device joining. -/
structure Watched where
  state : CoreState
  looks : Nat

def Watched.initial : Watched := ⟨.initial, 0⟩

def looksAfter (watched : Watched) : CoreEvent → Nat
  | .modeMonitor => if Joining watched.state.mode then watched.looks + 1 else 0
  | _ => watched.looks

def watchedStep (board : CoreBoard) (watched : Watched) (event : CoreEvent) (next : Watched) :
    Prop :=
  coreStep board watched.state event next.state ∧ next.looks = looksAfter watched event

def isHandle : CoreEvent → Bool
  | .handle _ => true
  | _ => false

/-- The queue and the log get longer at their ends, and the monitor has counted to `count`. -/
structure Grows (count : Nat) (before after : CoreState) : Prop where
  inbox : before.inbox <+: after.inbox
  room : before.inbox.length ≤ coreQueueLength → after.inbox.length ≤ coreQueueLength
  log : before.log <+: after.log
  count : after.modeMonitorCnt = count

section Frames

variable {first second third : CoreState} {between count : Nat}

theorem grows_logged {more : List CoreLog} (inbox : second.inbox = first.inbox)
    (log : second.log = first.log ++ more) (counted : second.modeMonitorCnt = count) :
    Grows count first second :=
  ⟨inbox ▸ List.prefix_rfl, fun room => inbox ▸ room, log ▸ List.prefix_append _ _, counted⟩

theorem grows_same (inbox : second.inbox = first.inbox) (log : second.log = first.log)
    (counted : second.modeMonitorCnt = count) : Grows count first second :=
  grows_logged inbox (log.trans (List.append_nil _).symm) counted

theorem grows_trans (left : Grows between first second) (right : Grows count second third) :
    Grows count first third :=
  ⟨left.inbox.trans right.inbox, fun room => right.room (left.room room),
    left.log.trans right.log, right.count⟩

theorem grows_posted {message : CoreMessage}
    (inbox : second.inbox = (systemOsPost first message).inbox)
    (log : second.log = first.log ++ [.posted message])
    (counted : second.modeMonitorCnt = count) : Grows count first second := by
  have queue : second.inbox =
      if first.inbox.length < coreQueueLength then first.inbox ++ [message] else first.inbox :=
    inbox
  refine ⟨?_, ?_, log ▸ List.prefix_append _ _, counted⟩
  · rw [queue]
    split
    · exact List.prefix_append _ _
    · exact List.prefix_rfl
  · intro room
    rw [queue]
    split
    · rw [List.length_append, List.length_singleton]
      omega
    · exact room

end Frames

section Handlers

variable (state : CoreState)

theorem task_grows (memory : Bool) (message : CoreMessage) :
    Grows state.modeMonitorCnt state (taskIoTgoNetworkCenter state memory message) := by
  cases message with
  | register =>
      dsimp only [taskIoTgoNetworkCenter]
      split
      · exact grows_same rfl rfl rfl
      · cases memory with
        | true => exact grows_logged rfl rfl rfl
        | false => exact grows_same rfl rfl rfl
  | distributor =>
      dsimp only [taskIoTgoNetworkCenter]
      split <;> exact grows_same rfl rfl rfl
  | distributorFinished ok =>
      cases ok with
      | true => exact grows_posted rfl rfl rfl
      | false => exact grows_same rfl rfl rfl
  | connectServer =>
      dsimp only [taskIoTgoNetworkCenter]
      split <;> exact grows_same rfl rfl rfl
  | connectServerAgain =>
      dsimp only [taskIoTgoNetworkCenter]
      split <;> exact grows_same rfl rfl rfl
  | registered =>
      dsimp only [taskIoTgoNetworkCenter]
      split
      · exact grows_same rfl rfl rfl
      · exact grows_posted rfl rfl rfl
  | redirect =>
      obtain ⟨timer, ping, pong, same⟩ := disconnect_eq state
      rw [taskIoTgoNetworkCenter, same]
      exact grows_posted rfl rfl rfl
  | enterSettingMode =>
      obtain ⟨timer, ping, pong, same⟩ := disconnect_eq (iotgoSetDeviceMode state .setting)
      rw [taskIoTgoNetworkCenter, same]
      exact grows_posted rfl rfl rfl
  | enterSettingSelfapMode =>
      obtain ⟨timer, ping, pong, same⟩ := disconnect_eq (iotgoSetDeviceMode state .settingSelfap)
      rw [taskIoTgoNetworkCenter, same]
      exact grows_same rfl rfl rfl
  | wsPing =>
      rw [taskIoTgoNetworkCenter]
      split
      · obtain ⟨timer, ping, pong, same⟩ := disconnect_eq state
        rw [same]
        exact grows_same rfl rfl rfl
      · exact grows_same rfl rfl rfl
  | _ =>
      first
        | exact grows_same rfl rfl rfl
        | exact grows_posted rfl rfl rfl

theorem effect_grows (effect : PkgEffect) :
    Grows state.modeMonitorCnt state (applyEffect state effect) := by
  cases effect with
  | notifyConfig hb hbi =>
      dsimp only [applyEffect, doNotifyConfig]
      split <;> exact grows_same rfl rfl rfl
  | ownerUuid apikey => exact grows_logged rfl rfl rfl
  | _ => exact grows_same rfl rfl rfl

theorem effects_grow (effects : List PkgEffect) :
    Grows state.modeMonitorCnt state (effects.foldl applyEffect state) := by
  induction effects generalizing state with
  | nil => exact grows_same rfl rfl rfl
  | cons effect effects ih =>
      have now := effect_grows state effect
      have later := ih (applyEffect state effect)
      rw [now.count] at later
      exact grows_trans now later

theorem acted_grows (mode : IoTgoDeviceMode) (type : IoTgoPkgType) (apikey : List UInt8) :
    Grows state.modeMonitorCnt state (acted (iotgoSetDeviceMode state mode) type apikey) :=
  grows_logged rfl rfl rfl

theorem dispatch_grows (board : CoreBoard) (apikey : List UInt8) (type : IoTgoPkgType) :
    Grows state.modeMonitorCnt state (dispatchPkg board state apikey type) := by
  cases type with
  | reqOfUpdate =>
      dsimp only [dispatchPkg]
      split
      · exact grows_logged rfl rfl rfl
      · exact grows_same rfl rfl rfl
  | reqOfQuery =>
      dsimp only [dispatchPkg]
      split
      · exact grows_logged rfl rfl rfl
      · exact grows_same rfl rfl rfl
  | reqOfRedirect =>
      have called := acted_grows state .workNormal .reqOfRedirect apikey
      exact grows_trans called (grows_posted rfl rfl rfl)
  | reqOfNotifyConfig =>
      dsimp only [dispatchPkg]
      split
      · exact grows_logged rfl rfl rfl
      · have called := acted_grows state .workNormal .reqOfNotifyConfig apikey
        exact grows_trans called (grows_posted rfl rfl rfl)
  | reqOfUpgrade => exact grows_logged rfl rfl rfl
  | retOfRestart => exact grows_logged rfl rfl rfl
  | respOfInit => exact grows_posted rfl rfl rfl
  | respOfInitFailed => exact grows_posted rfl rfl rfl
  | _ => exact grows_same rfl rfl rfl

theorem package_grows (board : CoreBoard) (pdata : List UInt8) (len : Nat) :
    Grows state.modeMonitorCnt state (clientTCPSproOnePkgCb board state pdata len) := by
  unfold clientTCPSproOnePkgCb
  cases FrameDispatch.clientTCPSproOnePkgCb pdata len with
  | wsConnected => exact grows_posted rfl rfl rfl
  | pingOk => exact grows_posted rfl rfl rfl
  | parsed data =>
      have effects := effects_grow state
        (parseTypeOfIoTgoPkg board.jsonparse (state.device board) data).2
      have dispatched := dispatch_grows
        ((parseTypeOfIoTgoPkg board.jsonparse (state.device board) data).2.foldl applyEffect state)
        board ((pkgFields board data).apikey.getD [])
        (parseTypeOfIoTgoPkg board.jsonparse (state.device board) data).1
      rw [effects.count] at dispatched
      exact grows_trans effects dispatched
  | ignored reason => exact grows_same rfl rfl rfl

theorem join_stage_grows (ok : Bool) :
    Grows state.modeMonitorCnt state (joinAPStage2 state ok) := by
  unfold joinAPStage2
  dsimp only
  split
  · exact grows_posted rfl rfl rfl
  · split
    · exact grows_posted rfl rfl rfl
    · exact grows_same rfl rfl rfl

/-- One look: it counts, posts, or begins afresh. -/
theorem monitor_looked : cbModeMonitorTimer state =
    if Joining state.mode then
      if 60 ≤ state.modeMonitorCnt + 1 then
        systemOsPost { state with modeMonitorCnt := 0 } .joinAp
      else { state with modeMonitorCnt := state.modeMonitorCnt + 1 }
    else { state with modeMonitorCnt := 0 } :=
  rfl

end Handlers

section Steps

variable (board : CoreBoard) {state next : CoreState} {event : CoreEvent}

/-- Steps other than a look and the handling of a message. -/
theorem other_grows (unlooked : event ≠ .modeMonitor) (unhandled : isHandle event = false)
    (step : coreStep board state event next) : Grows state.modeMonitorCnt state next := by
  cases event with
  | handle memory => cases unhandled
  | modeMonitor => exact absurd rfl unlooked
  | package pdata len =>
      cases step
      exact package_grows state board pdata len
  | wifiDisconnected lost =>
      cases step
      unfold iotgoWiFiEventHander
      split
      · split
        · exact grows_posted rfl rfl rfl
        · exact grows_same rfl rfl rfl
      · exact grows_same rfl rfl rfl
  | distributor answer =>
      cases step
      cases answer with
      | none => exact grows_posted rfl rfl rfl
      | some info => exact grows_posted rfl rfl rfl
  | joinApTimer ok =>
      unfold coreStep coreExec at step
      dsimp only at step
      cases stage : state.joinApTimer with
      | none =>
          rw [stage] at step
          cases step
      | some stage' =>
          rw [stage] at step
          cases stage' with
          | wait =>
              cases step
              exact join_stage_grows state ok
          | connect =>
              cases step
              unfold joinAPTimerCallback
              split <;> exact grows_same rfl rfl rfl
  | post message =>
      unfold coreStep coreExec at step
      dsimp only at step
      split_ifs at step with listed
      cases step
      exact grows_posted rfl rfl rfl
  | heartbeatTimer due =>
      obtain ⟨-, rfl⟩ := armed_step step
      cases due with
      | true => exact grows_posted rfl rfl rfl
      | false => exact grows_same rfl rfl rfl
  | tryDistorTimer =>
      obtain ⟨-, rfl⟩ := armed_step step
      unfold tryDistorTmrCb
      split
      · exact grows_posted rfl rfl rfl
      · exact grows_same rfl rfl rfl
  | gmtTimer =>
      obtain ⟨-, rfl⟩ := armed_step step
      unfold gmtTimerCallback
      split
      · exact grows_posted rfl rfl rfl
      · exact grows_same rfl rfl rfl
  | settingExitTimer gotIp =>
      obtain ⟨-, rfl⟩ := armed_step step
      cases gotIp with
      | true => exact grows_posted rfl rfl rfl
      | false => exact grows_posted rfl rfl rfl
  | connTcp =>
      cases step
      exact grows_same rfl rfl rfl
  | _ =>
      obtain ⟨-, rfl⟩ := armed_step step
      exact grows_posted rfl rfl rfl

theorem look_grows : ∃ count, Grows count state (cbModeMonitorTimer state) := by
  rw [monitor_looked]
  split
  · split
    · exact ⟨0, grows_posted rfl rfl rfl⟩
    · exact ⟨_, grows_same rfl rfl rfl⟩
  · exact ⟨0, grows_same rfl rfl rfl⟩

/-- The message in front is taken out, and what the handler posts stands behind the others. -/
theorem handle_grows {memory : Bool} (step : coreStep board state (.handle memory) next) :
    ∃ message rest, state.inbox = message :: rest ∧
      Grows state.modeMonitorCnt
        { state with inbox := rest, log := state.log ++ [.handled message] } next := by
  obtain ⟨message, rest, waits, rfl⟩ := message_taken board step
  have grows := task_grows { state with inbox := rest, log := state.log ++ [.handled message] }
    memory message
  exact ⟨message, rest, waits, grows⟩

/-- Every step that handles no message. -/
theorem unhandled_grows (unhandled : isHandle event = false)
    (step : coreStep board state event next) : ∃ count, Grows count state next := by
  by_cases looked : event = .modeMonitor
  · subst looked
    cases step
    exact look_grows
  · exact ⟨_, other_grows board looked unhandled step⟩

end Steps

section Queue

/-- `MSG_CORE_JOIN_AP` waits behind `left` other messages; nothing of `base` has gone. -/
def Waiting (base : List CoreLog) (left : Nat) (state : CoreState) : Prop :=
  base <+: state.log ∧
    ∃ front behind, state.inbox = front ++ .joinAp :: behind ∧ front.length = left

/-- `MSG_CORE_JOIN_AP` has been handled since `base`. -/
def Handled (base : List CoreLog) (state : CoreState) : Prop :=
  ∃ more, state.log = base ++ more ∧ .handled .joinAp ∈ more

variable {base : List CoreLog} {state next : CoreState} {left count : Nat}

theorem waiting_grows (grows : Grows count state next) (waits : Waiting base left state) :
    Waiting base left next := by
  obtain ⟨kept, front, behind, queue, length⟩ := waits
  obtain ⟨posted, longer⟩ := grows.inbox
  refine ⟨kept.trans grows.log, front, behind ++ posted, ?_, length⟩
  rw [← longer, queue, List.append_assoc, List.cons_append]

theorem handled_grows (grows : Grows count state next) (handled : Handled base state) :
    Handled base next := by
  obtain ⟨more, logged, member⟩ := handled
  obtain ⟨added, longer⟩ := grows.log
  refine ⟨more ++ added, ?_, List.mem_append_left added member⟩
  rw [← longer, logged, List.append_assoc]

/-- The queue is served in its order. -/
theorem join_countdown (board : CoreBoard) (base : List CoreLog) :
    Countdown (coreStep board) isHandle (Waiting base) (Handled base) where
  turn := by
    rintro left state event next step counted ⟨kept, front, behind, queue, length⟩
    cases event with
    | handle memory =>
        obtain ⟨message, rest, waits, grows⟩ := handle_grows board step
        cases front with
        | nil => cases length
        | cons first front =>
            rw [List.cons_append, waits] at queue
            obtain ⟨-, queue⟩ := List.cons.inj queue
            refine waiting_grows grows ⟨?_, front, behind, queue, Nat.succ.inj length⟩
            exact kept.trans (List.prefix_append _ _)
    | _ => cases counted
  last := by
    rintro state event next step counted ⟨kept, front, behind, queue, length⟩
    cases event with
    | handle memory =>
        obtain ⟨message, rest, waits, grows⟩ := handle_grows board step
        rw [List.length_eq_zero_iff.1 length, List.nil_append, waits] at queue
        obtain ⟨rfl, -⟩ := List.cons.inj queue
        obtain ⟨more, logged⟩ := kept
        refine handled_grows grows ⟨more ++ [.handled .joinAp], ?_, ?_⟩
        · rw [← List.append_assoc, logged]
        · exact List.mem_append_right more List.mem_cons_self
    | _ => cases counted
  holds := by
    intro left state event next step counted waits
    obtain ⟨count, grows⟩ := unhandled_grows board counted step
    exact waiting_grows grows waits
  stays := by
    rintro state event next step ⟨more, logged, member⟩
    cases handles : isHandle event with
    | false =>
        obtain ⟨count, grows⟩ := unhandled_grows board handles step
        exact handled_grows grows ⟨more, logged, member⟩
    | true =>
        cases event with
        | handle memory =>
            obtain ⟨message, rest, -, grows⟩ := handle_grows board step
            refine handled_grows grows ⟨more ++ [.handled message], ?_, ?_⟩
            · rw [← List.append_assoc, ← logged]
            · exact List.mem_append_left _ member
        | _ => cases handles

end Queue

section Monitor

variable {board : CoreBoard} {watched next : Watched} {events : List CoreEvent}

/-- The monitor counts the looks in a row, from each restart on afresh. -/
structure Sound (watched : Watched) : Prop where
  room : watched.state.inbox.length ≤ coreQueueLength
  count : watched.state.modeMonitorCnt = watched.looks % 60

theorem look_sound (sound : Sound watched) (step : watchedStep board watched .modeMonitor next) :
    next.state =
      if 0 < next.looks ∧ next.looks % 60 = 0 then
        systemOsPost { watched.state with modeMonitorCnt := 0 } .joinAp
      else { watched.state with modeMonitorCnt := next.looks % 60 } := by
  obtain ⟨taken, looks⟩ := step
  have state : cbModeMonitorTimer watched.state = next.state := Option.some.inj taken
  have count := sound.count
  rw [← state, monitor_looked, looks, looksAfter]
  by_cases joining : Joining watched.state.mode
  · rw [if_pos joining, if_pos joining]
    by_cases full : 60 ≤ watched.state.modeMonitorCnt + 1
    · rw [if_pos full, if_pos (by omega)]
    · have counted : watched.state.modeMonitorCnt + 1 = (watched.looks + 1) % 60 := by omega
      rw [if_neg full, if_neg (by omega), counted]
  · rw [if_neg joining, if_neg joining, if_neg (fun both => absurd both.1 (Nat.lt_irrefl 0))]

theorem sound_step {event : CoreEvent} (sound : Sound watched)
    (step : watchedStep board watched event next) : Sound next := by
  by_cases looked : event = .modeMonitor
  · subst looked
    have shape := look_sound sound step
    obtain ⟨count, grows⟩ := unhandled_grows board (rfl : isHandle .modeMonitor = false) step.1
    refine ⟨grows.room sound.room, ?_⟩
    rw [shape]
    split
    · next due => exact due.2.symm
    · rfl
  · have looks : next.looks = watched.looks := by
      rw [step.2]
      cases event with
      | modeMonitor => exact absurd rfl looked
      | _ => rfl
    cases handles : isHandle event with
    | false =>
        have grows := other_grows board looked handles step.1
        exact ⟨grows.room sound.room, by rw [grows.count, sound.count, looks]⟩
    | true =>
        cases event with
        | handle memory =>
            obtain ⟨message, rest, waits, grows⟩ := handle_grows board step.1
            have room := sound.room
            rw [waits, List.length_cons] at room
            refine ⟨grows.room (Nat.le_of_succ_le room), ?_⟩
            rw [grows.count, sound.count, looks]
        | _ => cases handles

theorem sound_run (run : Run (watchedStep board) .initial events watched) : Sound watched :=
  run_keeps Sound (fun _ _ _ sound step => sound_step sound step) ⟨Nat.zero_le _, rfl⟩ run

/-- A look posts `MSG_CORE_JOIN_AP` if and only if it is the sixtieth in a row, or one that many
times sixty later; and the message is handled before the queue has turned over once. -/
theorem restarts_at_sixtieth (run : Run (watchedStep board) .initial events watched)
    (look : watchedStep board watched .modeMonitor next) :
    next.state.log = watched.state.log ++
        (if 0 < next.looks ∧ next.looks % 60 = 0 then [.posted .joinAp] else []) ∧
      (0 < next.looks → next.looks % 60 = 0 → watched.state.inbox.length < coreQueueLength →
        ∀ later final, Run (coreStep board) next.state later final →
          coreQueueLength ≤ later.countP isHandle → Handled next.state.log final) := by
  have shape := look_sound (sound_run run) look
  constructor
  · rw [shape]
    split
    · rfl
    · exact (List.append_nil _).symm
  · intro some sixtieth free later final after turned
    rw [if_pos ⟨some, sixtieth⟩] at shape
    have queue : next.state.inbox = watched.state.inbox ++ [.joinAp] := by
      rw [shape]
      exact if_pos free
    have waits : Waiting next.state.log watched.state.inbox.length next.state :=
      ⟨List.prefix_rfl, watched.state.inbox, [], queue, rfl⟩
    exact (join_countdown board next.state.log).done_after after waits (by omega)

end Monitor

section Instance

def quietBoard : CoreBoard := ⟨[], [], true, true, true, fun _ => []⟩

/-- The device does not get beyond the access point. -/
def stuckStart : List CoreEvent :=
  [.startTimer, .handle true] ++ List.replicate 59 .modeMonitor

def watchedExec (watched : Watched) (event : CoreEvent) : Option Watched :=
  (coreExec watched.state quietBoard event).map fun state => ⟨state, looksAfter watched event⟩

theorem watched_exec_sound (watched : Watched) (event : CoreEvent) (next : Watched)
    (computed : watchedExec watched event = some next) :
    watchedStep quietBoard watched event next := by
  obtain ⟨state, taken, rfl⟩ := Option.map_eq_some_iff.1 computed
  exact ⟨taken, rfl⟩

theorem restarts_at_sixtieth_stuck :
    ∃ watched next : Watched, next.looks = 60 ∧
      next.state.log = watched.state.log ++
          (if 0 < next.looks ∧ next.looks % 60 = 0 then [.posted .joinAp] else []) ∧
        (0 < next.looks → next.looks % 60 = 0 → watched.state.inbox.length < coreQueueLength →
          ∀ later final, Run (coreStep quietBoard) next.state later final →
            coreQueueLength ≤ later.countP isHandle → Handled next.state.log final) := by
  have reached : ((execRun watchedExec .initial stuckStart).any fun watched =>
      decide (looksAfter watched .modeMonitor = 60)) = true := by decide +kernel
  obtain ⟨watched, run, sixty⟩ := exists_run_of_exec watched_exec_sound reached
  refine ⟨watched, ⟨cbModeMonitorTimer watched.state, looksAfter watched .modeMonitor⟩,
    of_decide_eq_true sixty, ?_⟩
  exact restarts_at_sixtieth run ⟨rfl, rfl⟩

end Instance

end IotgoFirmware.Core.ModeMonitor
