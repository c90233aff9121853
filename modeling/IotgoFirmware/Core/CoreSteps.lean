import IotgoFirmware.Core.CoreTask

/-!
# What a step of the core task says about the owner

Only a registration response writes a key of the server to the owner and posts
`MSG_CORE_REGISTERED`; handling `MSG_CORE_REGISTER` may write the placeholder; every
other step leaves the owner as it is.
-/

namespace IotgoFirmware.Core.CoreSteps

open IotgoFirmware.Library.CStrings
open IotgoFirmware.Library.JsonDocuments
open IotgoFirmware.Core.PkgScan
open IotgoFirmware.Core.CoreTask
open IotgoFirmware.Receive
open IotgoFirmware.Send.SendJson (IoTgoDeviceMode)

set_option autoImplicit false

/-- The payload that the receive callback hands to `parseTypeOfIoTgoPkg`. -/
def parsedData : CoreEvent → Option (List UInt8)
  | .package pdata len =>
      match FrameDispatch.clientTCPSproOnePkgCb pdata len with
      | .parsed data => some data
      | _ => none
  | _ => none

def pkgTypeAt (board : CoreBoard) (state : CoreState) (event : CoreEvent) :
    Option IoTgoPkgType :=
  (parsedData event).map fun data =>
    (parseTypeOfIoTgoPkg board.jsonparse (state.device board) data).1

def apikeyAt (board : CoreBoard) (event : CoreEvent) : List UInt8 :=
  match parsedData event with
  | some data => (pkgFields board data).apikey.getD []
  | none => []

def actsOn (board : CoreBoard) : IoTgoPkgType → Bool
  | .reqOfUpdate => board.reqOfUpdateCallback
  | .reqOfQuery => board.reqOfQueryCallback
  | .reqOfRedirect => true
  | .reqOfNotifyConfig => true
  | .reqOfUpgrade => true
  | .retOfRestart => true
  | _ => false

def actLog (board : CoreBoard) (type : IoTgoPkgType) (apikey : List UInt8) : List CoreLog :=
  if actsOn board type then [.acted type apikey] else []

/-- The packages on which the receive callback sets `DEVICE_MODE_WORK_NORMAL`. -/
def setsNormal : IoTgoPkgType → Bool
  | .respOfUpdate => true
  | .respOfQuery => true
  | .respOfDate => true
  | .reqOfUpdate => true
  | .reqOfRedirect => true
  | .reqOfNotifyConfig => true
  | .reqOfQuery => true
  | _ => false

/-- The mode in which a message leaves the device. -/
def messageMode (state : CoreState) : CoreMessage → IoTgoDeviceMode
  | .joinAp => .workApErr
  | .joinApErr => .workApErr
  | .apJoined => .workApOk
  | .connectServerAgain => if Setting state then state.mode else .workApOk
  | .register => if Setting state then state.mode else .workInit
  | .registered => if Setting state then state.mode else .workNormal
  | .upgradeExit => .workNormal
  | .enterSettingMode => .setting
  | .enterSettingSelfapMode => .settingSelfap
  | _ => state.mode

def modeAfter (board : CoreBoard) (state : CoreState) (event : CoreEvent) : IoTgoDeviceMode :=
  match event with
  | .handle _ =>
      match state.inbox.head? with
      | some message => messageMode state message
      | none => state.mode
  | .package _ _ =>
      match pkgTypeAt board state event with
      | some type => if setsNormal type then .workNormal else state.mode
      | none => state.mode
  | .settingExitTimer gotIp => if gotIp then .workApOk else state.mode
  | .selfapExitTimer => .workApErr
  | _ => state.mode

/-- A step that does no more than set the mode and post, and not `MSG_CORE_REGISTERED`. -/
structure Quiet (mode : IoTgoDeviceMode) (before after : CoreState) : Prop where
  owner : after.ownerUuid = before.ownerUuid
  log : ∃ messages : List CoreMessage,
    after.log = before.log ++ messages.map .posted ∧ .registered ∉ messages
  mode : after.mode = mode

/-- The state in which a message has been taken out of the queue. -/
def noted (state : CoreState) (message : CoreMessage) : CoreState :=
  { state with log := state.log ++ [.handled message] }

inductive CoreKind (board : CoreBoard) (state : CoreState) (event : CoreEvent)
    (next : CoreState) : Prop where
  | quiet (unparsed : pkgTypeAt board state event = none)
      (kept : Quiet (modeAfter board state event) state next)
  | handled (message : CoreMessage) (unparsed : pkgTypeAt board state event = none)
      (kept : Quiet (modeAfter board state event) (noted state message) next)
  | invalidated (unparsed : pkgTypeAt board state event = none)
      (owner : next.ownerUuid = asciiBytes "Invalid owner uuid")
      (log : next.log = state.log ++ [.handled .register, .ownerInvalid])
  | parsed (type : IoTgoPkgType) (found : pkgTypeAt board state event = some type)
      (other : type ≠ .respOfInit) (owner : next.ownerUuid = state.ownerUuid)
      (log : ∃ messages : List CoreMessage, next.log =
        state.log ++ (actLog board type (apikeyAt board event) ++ messages.map .posted) ∧
          .registered ∉ messages)
  | accepted (found : pkgTypeAt board state event = some .respOfInit)
      (owner : next.ownerUuid = apikeyAt board event)
      (log : next.log =
        state.log ++ [.ownerUuid (apikeyAt board event), .posted .registered])

section Frames

variable {first second third : CoreState} {between mode : IoTgoDeviceMode}

theorem quiet_same (owner : second.ownerUuid = first.ownerUuid) (log : second.log = first.log)
    (moved : second.mode = mode) : Quiet mode first second :=
  ⟨owner, ⟨[], by rw [log, List.map_nil, List.append_nil], List.not_mem_nil⟩, moved⟩

theorem quiet_trans (left : Quiet between first second) (right : Quiet mode second third) :
    Quiet mode first third := by
  obtain ⟨early, grown, absent⟩ := left.log
  obtain ⟨late, grown', absent'⟩ := right.log
  refine ⟨right.owner.trans left.owner, ⟨early ++ late, ?_, ?_⟩, right.mode⟩
  · rw [grown', grown, List.map_append, List.append_assoc]
  · rw [List.mem_append, not_or]
    exact ⟨absent, absent'⟩

theorem quiet_posted {message : CoreMessage} (owner : second.ownerUuid = first.ownerUuid)
    (log : second.log = first.log ++ [.posted message]) (moved : second.mode = mode)
    (other : message ≠ .registered) : Quiet mode first second :=
  ⟨owner, ⟨[message], log, fun member => other (List.mem_singleton.1 member).symm⟩, moved⟩

theorem notify_config_quiet (state : CoreState) (hb hbi : Int) :
    (doNotifyConfig state hb hbi).ownerUuid = state.ownerUuid ∧
      (doNotifyConfig state hb hbi).log = state.log := by
  unfold doNotifyConfig
  split
  · exact ⟨rfl, rfl⟩
  · exact ⟨rfl, rfl⟩

end Frames

section Packages

variable (board : CoreBoard) (device : IoTgoDevice) (fields : PkgFields) (state : CoreState)

def notOwner : PkgEffect → Prop
  | .ownerUuid _ => False
  | _ => True

theorem effects_quiet {effects : List PkgEffect} (others : ∀ effect ∈ effects, notOwner effect) :
    (effects.foldl applyEffect state).ownerUuid = state.ownerUuid ∧
      (effects.foldl applyEffect state).log = state.log := by
  induction effects generalizing state with
  | nil => exact ⟨rfl, rfl⟩
  | cons effect effects ih =>
      have rest := ih (applyEffect state effect) fun later member =>
        others later (List.mem_cons_of_mem effect member)
      have now : (applyEffect state effect).ownerUuid = state.ownerUuid ∧
          (applyEffect state effect).log = state.log := by
        cases effect with
        | ownerUuid apikey => exact (others _ List.mem_cons_self).elim
        | notifyConfig hb hbi => exact notify_config_quiet state hb hbi
        | _ => exact ⟨rfl, rfl⟩
      exact ⟨rest.1.trans now.1, rest.2.trans now.2⟩

theorem sequence_effect_other : ∀ effect ∈ sequenceEffect fields, notOwner effect := by
  intro effect member
  unfold sequenceEffect at member
  split at member
  · cases List.mem_singleton.1 member
    trivial
  · cases member

theorem init_config_other : ∀ effect ∈ initConfig fields, notOwner effect := by
  intro effect member
  unfold initConfig at member
  split at member
  · cases List.mem_singleton.1 member
    trivial
  · cases member

/-- Only the branch of the registration response writes the owner. -/
def WritesOwner (result : IoTgoPkgType × List PkgEffect) : Prop :=
  result.1 = .respOfInit ∧
      result.2 = .ownerUuid (fields.apikey.getD []) :: initConfig fields ∨
    result.1 ≠ .respOfInit ∧ ∀ effect ∈ result.2, notOwner effect

theorem plain_branch {type : IoTgoPkgType} (other : type ≠ .respOfInit) :
    WritesOwner fields (type, []) :=
  .inr ⟨other, fun _ member => absurd member List.not_mem_nil⟩

theorem effect_branch {type : IoTgoPkgType} (effect : PkgEffect) (other : type ≠ .respOfInit)
    (harmless : notOwner effect) : WritesOwner fields (type, [effect]) := by
  refine .inr ⟨other, fun single member => ?_⟩
  cases List.mem_singleton.1 member
  exact harmless

theorem type_of_writes : WritesOwner fields (pkgTypeOf device fields) := by
  unfold pkgTypeOf
  apply iteInduction (fun _ => plain_branch fields IoTgoPkgType.noConfusion) fun _ => ?_
  apply iteInduction (fun _ => plain_branch fields IoTgoPkgType.noConfusion) fun _ => ?_
  apply iteInduction (fun _ => plain_branch fields IoTgoPkgType.noConfusion) fun _ => ?_
  apply iteInduction
    (fun _ => effect_branch fields (.serverInfo _ _) IoTgoPkgType.noConfusion trivial) fun _ => ?_
  apply iteInduction
    (fun _ => effect_branch fields (.notifyConfig _ _) IoTgoPkgType.noConfusion trivial) fun _ => ?_
  apply iteInduction (fun _ => plain_branch fields IoTgoPkgType.noConfusion) fun _ => ?_
  apply iteInduction (fun _ => plain_branch fields IoTgoPkgType.noConfusion) fun _ => ?_
  apply iteInduction (fun _ => plain_branch fields IoTgoPkgType.noConfusion) fun _ => ?_
  apply iteInduction (fun _ => plain_branch fields IoTgoPkgType.noConfusion) fun _ => ?_
  apply iteInduction (fun _ => .inl ⟨rfl, rfl⟩) fun _ => ?_
  apply iteInduction (fun _ => ?_) fun _ => ?_
  · cases fields.regi with
    | none => exact plain_branch fields IoTgoPkgType.noConfusion
    | some regi => exact effect_branch fields (.regInterval _) IoTgoPkgType.noConfusion trivial
  apply iteInduction (fun _ => plain_branch fields IoTgoPkgType.noConfusion) fun _ => ?_
  exact plain_branch fields IoTgoPkgType.noConfusion

theorem dispatch_owner (apikey : List UInt8) (type : IoTgoPkgType) :
    (dispatchPkg board state apikey type).ownerUuid = state.ownerUuid := by
  cases type <;> unfold dispatchPkg <;> dsimp only <;> (try split) <;> rfl

/-- What the `switch` logs: the request, if it is acted upon, and posts. -/
theorem dispatch_log (apikey : List UInt8) {type : IoTgoPkgType} (other : type ≠ .respOfInit) :
    ∃ messages : List CoreMessage, (dispatchPkg board state apikey type).log =
      state.log ++ (actLog board type apikey ++ messages.map .posted) ∧
        .registered ∉ messages := by
  have nothing (log : List CoreLog) : log = log ++ ([] ++ List.map CoreLog.posted []) := by
    simp only [List.map_nil, List.append_nil]
  cases type with
  | respOfInit => exact absurd rfl other
  | reqOfUpdate =>
      refine ⟨[], ?_, List.not_mem_nil⟩
      unfold dispatchPkg actLog actsOn
      dsimp only
      split
      · rfl
      · exact nothing _
  | reqOfQuery =>
      refine ⟨[], ?_, List.not_mem_nil⟩
      unfold dispatchPkg actLog actsOn
      dsimp only
      split
      · rfl
      · exact nothing _
  | reqOfRedirect =>
      refine ⟨[.redirect], ?_, by decide⟩
      exact List.append_assoc state.log [.acted .reqOfRedirect apikey] [.posted .redirect]
  | reqOfNotifyConfig =>
      unfold dispatchPkg
      dsimp only
      split
      · exact ⟨[], rfl, List.not_mem_nil⟩
      · refine ⟨[.notifyConfig], ?_, by decide⟩
        exact List.append_assoc state.log [.acted .reqOfNotifyConfig apikey] [.posted .notifyConfig]
  | reqOfUpgrade => exact ⟨[], rfl, List.not_mem_nil⟩
  | retOfRestart => exact ⟨[], rfl, List.not_mem_nil⟩
  | respOfInitFailed => exact ⟨[.registerErr], rfl, by decide⟩
  | _ => exact ⟨[], nothing _, List.not_mem_nil⟩

/-- A package of any type but the registration response. -/
theorem handle_pkg_other {data : List UInt8}
    (other : (parseTypeOfIoTgoPkg board.jsonparse (state.device board) data).1 ≠ .respOfInit) :
    (handlePkg board state data).ownerUuid = state.ownerUuid ∧
      ∃ messages : List CoreMessage, (handlePkg board state data).log =
        state.log ++
          (actLog board (parseTypeOfIoTgoPkg board.jsonparse (state.device board) data).1
              ((pkgFields board data).apikey.getD []) ++ messages.map .posted) ∧
          .registered ∉ messages := by
  have effects : ∀ effect ∈ (parseTypeOfIoTgoPkg board.jsonparse (state.device board) data).2,
      notOwner effect := by
    intro effect member
    rcases List.mem_append.1 member with sequence | branch
    · exact sequence_effect_other _ effect sequence
    · rcases type_of_writes (state.device board) (pkgFields board data) with ⟨init, -⟩ | ⟨-, plain⟩
      · exact absurd init other
      · exact plain effect branch
  obtain ⟨owner, log⟩ := effects_quiet state effects
  obtain ⟨messages, grown, absent⟩ := dispatch_log board
    ((parseTypeOfIoTgoPkg board.jsonparse (state.device board) data).2.foldl applyEffect state)
    ((pkgFields board data).apikey.getD []) other
  refine ⟨(dispatch_owner board _ _ _).trans owner, messages, ?_, absent⟩
  rw [log] at grown
  exact grown

theorem handle_pkg_init {data : List UInt8}
    (init : (parseTypeOfIoTgoPkg board.jsonparse (state.device board) data).1 = .respOfInit) :
    (handlePkg board state data).ownerUuid = (pkgFields board data).apikey.getD [] ∧
      (handlePkg board state data).log = state.log ++
        [.ownerUuid ((pkgFields board data).apikey.getD []), .posted .registered] := by
  obtain ⟨-, branch⟩ | ⟨other, -⟩ := type_of_writes (state.device board) (pkgFields board data)
  · have parsed : handlePkg board state data = systemOsPost
        ((initConfig (pkgFields board data)).foldl applyEffect
          (applyEffect ((sequenceEffect (pkgFields board data)).foldl applyEffect state)
            (.ownerUuid ((pkgFields board data).apikey.getD [])))) .registered := by
      have effects : (parseTypeOfIoTgoPkg board.jsonparse (state.device board) data).2 =
          sequenceEffect (pkgFields board data) ++
            .ownerUuid ((pkgFields board data).apikey.getD []) ::
              initConfig (pkgFields board data) :=
        congrArg (sequenceEffect (pkgFields board data) ++ ·) branch
      unfold handlePkg
      dsimp only
      rw [init, effects, List.foldl_append, List.foldl_cons]
      rfl
    obtain ⟨-, early⟩ := effects_quiet state (sequence_effect_other (pkgFields board data))
    obtain ⟨owner, late⟩ := effects_quiet
      (applyEffect ((sequenceEffect (pkgFields board data)).foldl applyEffect state)
        (.ownerUuid ((pkgFields board data).apikey.getD [])))
      (init_config_other (pkgFields board data))
    rw [parsed]
    refine ⟨owner, ?_⟩
    calc _ = _ ++ [CoreLog.posted .registered] := rfl
      _ = (state.log ++ [.ownerUuid ((pkgFields board data).apikey.getD [])]) ++
          [.posted .registered] := by
        rw [late, applyEffect, early]
      _ = _ := List.append_assoc _ _ _
  · exact absurd init other

theorem effects_mode (effects : List PkgEffect) (state : CoreState) :
    (effects.foldl applyEffect state).mode = state.mode := by
  induction effects generalizing state with
  | nil => rfl
  | cons effect effects ih =>
      have now : (applyEffect state effect).mode = state.mode := by
        cases effect with
        | notifyConfig hb hbi =>
            unfold applyEffect doNotifyConfig
            dsimp only
            split <;> rfl
        | _ => rfl
      exact (ih (applyEffect state effect)).trans now

theorem dispatch_mode (board : CoreBoard) (state : CoreState) (apikey : List UInt8)
    (type : IoTgoPkgType) :
    (dispatchPkg board state apikey type).mode =
      if setsNormal type then .workNormal else state.mode := by
  cases type with
  | reqOfUpdate =>
      change (dispatchPkg board state apikey .reqOfUpdate).mode = .workNormal
      dsimp only [dispatchPkg]
      split <;> rfl
  | reqOfQuery =>
      change (dispatchPkg board state apikey .reqOfQuery).mode = .workNormal
      dsimp only [dispatchPkg]
      split <;> rfl
  | reqOfNotifyConfig =>
      change (dispatchPkg board state apikey .reqOfNotifyConfig).mode = .workNormal
      dsimp only [dispatchPkg]
      split <;> rfl
  | _ => rfl

theorem package_mode (board : CoreBoard) (state : CoreState) (pdata : List UInt8) (len : Nat) :
    (clientTCPSproOnePkgCb board state pdata len).mode =
      modeAfter board state (.package pdata len) := by
  unfold clientTCPSproOnePkgCb modeAfter pkgTypeAt parsedData
  dsimp only
  cases FrameDispatch.clientTCPSproOnePkgCb pdata len with
  | parsed data => exact (dispatch_mode board _ _ _).trans (by rw [effects_mode]; rfl)
  | _ => rfl

end Packages

section Task

variable (board : CoreBoard) {state next : CoreState} {event : CoreEvent}

theorem join_stage_quiet (state : CoreState) (ok : Bool) :
    Quiet state.mode state (joinAPStage2 state ok) := by
  unfold joinAPStage2
  dsimp only
  split
  · refine quiet_posted rfl rfl rfl ?_
    split <;> exact CoreMessage.noConfusion
  · split
    · refine quiet_posted rfl rfl rfl ?_
      split <;> exact CoreMessage.noConfusion
    · exact quiet_same rfl rfl rfl

/-- A disconnection changes no more than the heartbeat. -/
theorem disconnect_eq (state : CoreState) : ∃ timer ping pong, iotgoPconnDisconnect state =
    { state with heartbeatTimer := timer, pingCounter := ping, pongCounter := pong } := by
  unfold iotgoPconnDisconnect
  split
  · exact ⟨false, 0, 0, rfl⟩
  · exact ⟨state.heartbeatTimer, state.pingCounter, state.pongCounter, rfl⟩

/-- Handlers other than that of `MSG_CORE_REGISTER`. -/
theorem task_quiet (state : CoreState) (memory : Bool) {message : CoreMessage}
    (other : message ≠ .register) :
    Quiet (messageMode state message) state (taskIoTgoNetworkCenter state memory message) := by
  cases message with
  | register => exact absurd rfl other
  | distributor =>
      dsimp only [taskIoTgoNetworkCenter]
      split <;> exact quiet_same rfl rfl rfl
  | distributorFinished ok =>
      dsimp only [taskIoTgoNetworkCenter]
      cases ok with
      | true => exact quiet_posted rfl rfl rfl CoreMessage.noConfusion
      | false => exact quiet_same rfl rfl rfl
  | connectServer =>
      dsimp only [taskIoTgoNetworkCenter]
      split <;> exact quiet_same rfl rfl rfl
  | connectServerAgain =>
      dsimp only [taskIoTgoNetworkCenter, messageMode]
      split <;> exact quiet_same rfl rfl rfl
  | registered =>
      dsimp only [taskIoTgoNetworkCenter, messageMode]
      split
      · exact quiet_same rfl rfl rfl
      · exact quiet_posted rfl rfl rfl CoreMessage.noConfusion
  | redirect =>
      obtain ⟨timer, ping, pong, same⟩ := disconnect_eq state
      rw [taskIoTgoNetworkCenter, same]
      exact quiet_posted rfl rfl rfl CoreMessage.noConfusion
  | enterSettingMode =>
      obtain ⟨timer, ping, pong, same⟩ := disconnect_eq (iotgoSetDeviceMode state .setting)
      rw [taskIoTgoNetworkCenter, same]
      exact quiet_posted rfl rfl rfl CoreMessage.noConfusion
  | enterSettingSelfapMode =>
      obtain ⟨timer, ping, pong, same⟩ := disconnect_eq (iotgoSetDeviceMode state .settingSelfap)
      rw [taskIoTgoNetworkCenter, same]
      exact quiet_same rfl rfl rfl
  | wsPing =>
      rw [taskIoTgoNetworkCenter]
      split
      · obtain ⟨timer, ping, pong, same⟩ := disconnect_eq state
        rw [same]
        exact quiet_same rfl rfl rfl
      · exact quiet_same rfl rfl rfl
  | _ =>
      first
        | exact quiet_same rfl rfl rfl
        | exact quiet_posted rfl rfl rfl CoreMessage.noConfusion

/-- A message that is handled: it is quiet, or writes the placeholder. -/
theorem take_message_kind (state : CoreState) (memory : Bool) (message : CoreMessage)
    (rest : List CoreMessage) :
    Quiet (messageMode state message) (noted state message)
        (takeMessage state memory message rest) ∨
      (takeMessage state memory message rest).ownerUuid = asciiBytes "Invalid owner uuid" ∧
        (takeMessage state memory message rest).log =
            state.log ++ [.handled .register, .ownerInvalid] ∧
          (takeMessage state memory message rest).mode = messageMode state message := by
  by_cases register : message = .register
  · subst register
    unfold takeMessage messageMode
    dsimp only [taskIoTgoNetworkCenter]
    by_cases setting : Setting state
    · rw [if_pos setting, if_pos (show Setting { state with
        inbox := rest, log := state.log ++ [.handled .register] } from setting)]
      exact .inl (quiet_same rfl rfl rfl)
    · rw [if_neg setting, if_neg (show ¬ Setting { state with
        inbox := rest, log := state.log ++ [.handled .register] } from setting)]
      cases memory with
      | true =>
          have logged := List.append_assoc state.log [CoreLog.handled .register] [.ownerInvalid]
          exact .inr ⟨rfl, logged, rfl⟩
      | false => exact .inl (quiet_same rfl rfl rfl)
  · have popped : Quiet state.mode (noted state message)
        { state with inbox := rest, log := state.log ++ [.handled message] } :=
      quiet_same rfl rfl rfl
    have handled := task_quiet
      { state with inbox := rest, log := state.log ++ [.handled message] } memory register
    have same : messageMode { state with inbox := rest, log := state.log ++ [.handled message] }
        message = messageMode state message := by
      cases message <;> rfl
    rw [same] at handled
    exact .inl (quiet_trans popped handled)

/-- A timer that fires is armed. -/
theorem armed_step {armed : Bool} {after : CoreState}
    (step : (if armed then some after else none) = some next) : armed = true ∧ next = after := by
  cases armed with
  | true => exact ⟨rfl, (Option.some.inj step).symm⟩
  | false => cases step

/-- Steps in which no message is handled and no package is parsed. -/
theorem other_quiet (unhandled : ∀ memory, event ≠ .handle memory)
    (unparsed : parsedData event = none) (step : coreStep board state event next) :
    Quiet (modeAfter board state event) state next := by
  cases event with
  | handle memory => exact absurd rfl (unhandled memory)
  | package pdata len =>
      have stays : modeAfter board state (.package pdata len) = state.mode := by
        unfold modeAfter pkgTypeAt
        rw [unparsed]
        rfl
      cases step
      rw [stays]
      unfold clientTCPSproOnePkgCb
      cases found : FrameDispatch.clientTCPSproOnePkgCb pdata len with
      | wsConnected => exact quiet_posted rfl rfl rfl CoreMessage.noConfusion
      | pingOk => exact quiet_posted rfl rfl rfl CoreMessage.noConfusion
      | parsed data => simp [parsedData, found] at unparsed
      | ignored reason => exact quiet_same rfl rfl rfl
  | modeMonitor =>
      cases step
      unfold cbModeMonitorTimer
      split
      · split
        · exact quiet_posted rfl rfl rfl CoreMessage.noConfusion
        · exact quiet_same rfl rfl rfl
      · exact quiet_same rfl rfl rfl
  | wifiDisconnected lost =>
      cases step
      unfold iotgoWiFiEventHander
      split
      · split
        · exact quiet_posted rfl rfl rfl CoreMessage.noConfusion
        · exact quiet_same rfl rfl rfl
      · exact quiet_same rfl rfl rfl
  | distributor answer =>
      cases step
      cases answer with
      | none => exact quiet_posted rfl rfl rfl CoreMessage.noConfusion
      | some info => exact quiet_posted rfl rfl rfl CoreMessage.noConfusion
  | joinApTimer ok =>
      unfold coreStep coreExec at step
      dsimp only at step
      cases stage : state.joinApTimer with
      | none =>
          rw [stage] at step
          cases step
      | some stage' =>
          rw [stage] at step
          cases stage' with
          | wait =>
              cases step
              exact join_stage_quiet state ok
          | connect =>
              cases step
              unfold joinAPTimerCallback
              split <;> exact quiet_same rfl rfl rfl
  | post message =>
      unfold coreStep coreExec at step
      dsimp only at step
      split_ifs at step with listed
      cases step
      refine quiet_posted rfl rfl rfl ?_
      rintro rfl
      exact absurd listed (by decide)
  | heartbeatTimer due =>
      obtain ⟨-, rfl⟩ := armed_step step
      cases due with
      | true => exact quiet_posted rfl rfl rfl CoreMessage.noConfusion
      | false => exact quiet_same rfl rfl rfl
  | tryDistorTimer =>
      obtain ⟨-, rfl⟩ := armed_step step
      unfold tryDistorTmrCb
      split
      · exact quiet_posted rfl rfl rfl CoreMessage.noConfusion
      · exact quiet_same rfl rfl rfl
  | gmtTimer =>
      obtain ⟨-, rfl⟩ := armed_step step
      unfold gmtTimerCallback
      split
      · exact quiet_posted rfl rfl rfl CoreMessage.noConfusion
      · exact quiet_same rfl rfl rfl
  | settingExitTimer gotIp =>
      obtain ⟨-, rfl⟩ := armed_step step
      cases gotIp with
      | true => exact quiet_posted rfl rfl rfl CoreMessage.noConfusion
      | false => exact quiet_posted rfl rfl rfl CoreMessage.noConfusion
  | connTcp =>
      cases step
      exact quiet_same rfl rfl rfl
  | _ =>
      obtain ⟨-, rfl⟩ := armed_step step
      exact quiet_posted rfl rfl rfl CoreMessage.noConfusion

/-- A message that is handled has waited longest. -/
theorem message_taken {memory : Bool} (step : coreStep board state (.handle memory) next) :
    ∃ message rest, state.inbox = message :: rest ∧
      takeMessage state memory message rest = next := by
  unfold coreStep coreExec at step
  dsimp only at step
  cases waits : state.inbox with
  | nil =>
      rw [waits] at step
      cases step
  | cons message rest =>
      rw [waits] at step
      exact ⟨message, rest, rfl, Option.some.inj step⟩

theorem handle_mode {memory : Bool} {message : CoreMessage} {rest : List CoreMessage}
    (waits : state.inbox = message :: rest) :
    modeAfter board state (.handle memory) = messageMode state message := by
  unfold modeAfter
  dsimp only
  rw [waits]
  rfl

theorem core_kind (step : coreStep board state event next) : CoreKind board state event next := by
  cases found : parsedData event with
  | none =>
      have unparsed : pkgTypeAt board state event = none := by
        rw [pkgTypeAt, found]
        rfl
      by_cases handles : ∃ memory, event = .handle memory
      · obtain ⟨memory, rfl⟩ := handles
        obtain ⟨message, rest, waits, rfl⟩ := message_taken board step
        obtain kept | ⟨owner, log, -⟩ := take_message_kind state memory message rest
        · refine .handled message unparsed ?_
          rw [handle_mode board waits]
          exact kept
        · exact .invalidated unparsed owner log
      · refine .quiet unparsed (other_quiet board (fun memory same => ?_) found step)
        exact handles ⟨memory, same⟩
  | some data =>
      have typed : pkgTypeAt board state event =
          some (parseTypeOfIoTgoPkg board.jsonparse (state.device board) data).1 := by
        rw [pkgTypeAt, found]
        rfl
      have apikey : apikeyAt board event = (pkgFields board data).apikey.getD [] := by
        rw [apikeyAt, found]
      have taken : next = handlePkg board state data := by
        cases event with
        | package pdata len =>
            have outcome : FrameDispatch.clientTCPSproOnePkgCb pdata len = .parsed data := by
              unfold parsedData at found
              dsimp only at found
              split at found
              · rename_i other outcome
                cases found
                exact outcome
              · cases found
            cases step
            unfold clientTCPSproOnePkgCb
            rw [outcome]
        | _ => cases found
      rw [taken]
      by_cases init :
          (parseTypeOfIoTgoPkg board.jsonparse (state.device board) data).1 = .respOfInit
      · obtain ⟨owner, log⟩ := handle_pkg_init board state init
        rw [init] at typed
        rw [← apikey] at owner log
        exact .accepted typed owner log
      · obtain ⟨owner, log⟩ := handle_pkg_other board state init
        rw [← apikey] at log
        exact .parsed _ typed init owner log

theorem step_mode (step : coreStep board state event next) :
    next.mode = modeAfter board state event := by
  cases event with
  | handle memory =>
      obtain ⟨message, rest, waits, rfl⟩ := message_taken board step
      rw [handle_mode board waits]
      obtain kept | ⟨-, -, moved⟩ := take_message_kind state memory message rest
      · exact kept.mode
      · exact moved
  | package pdata len =>
      cases step
      exact package_mode board state pdata len
  | _ => exact (other_quiet board (fun _ => CoreEvent.noConfusion) rfl step).mode

end Task

end IotgoFirmware.Core.CoreSteps
