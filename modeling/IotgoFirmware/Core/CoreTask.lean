import IotgoFirmware.Core.PkgScan
import IotgoFirmware.Library.StepRuns
import IotgoFirmware.Receive.FrameDispatch
import IotgoFirmware.Send.SendJson

/-!
# The core task

`taskIoTgoNetworkCenter` of `iotgo_core.c` with everything that posts to it: the
receive callback of the connection, the timers of the task and of the Wi-Fi, the
mode monitor, and other modules. A message waits in the event queue while others are
handled and callbacks come, in any order.

Modelled are the device mode, the owner, the server's address, the timers, the heartbeat and the
queue. Connections, sending, the upgrade, the setting server and the device's own
callbacks are left out: what they post comes as an event of its own.
-/

namespace IotgoFirmware.Core.CoreTask

open IotgoFirmware.Library.CIntegers
open IotgoFirmware.Library.CStrings
open IotgoFirmware.Library.JsonDocuments
open IotgoFirmware.Core.PkgScan
open IotgoFirmware.Receive
open IotgoFirmware.Send.SendJson (IoTgoDeviceMode coreQueueLength)

set_option autoImplicit false

inductive CoreMessage where
  | joinAp
  | apJoined
  | joinApErr
  | serverConnected
  | serverDisconnected
  | connectServer
  | reconnectServer
  | connectServerErr
  | connectServerAgain
  | distributor
  | distributorFinished (ok : Bool)
  | wsConnected
  | wsConnect
  | register
  | registered
  | registerErr
  | date
  | dateOk
  | sendJson
  | sendJsonAgain
  | sendJsonFinished
  | redirect
  | notifyConfig
  | wsPing
  | wsPingOk
  | enterSettingMode
  | exitSettingMode
  | settingRespToApp
  | settingSendIdToApp
  | settingScStart
  | settingScStop
  | settingScRestart
  | enterSettingSelfapMode
  | exitSettingSelfapMode
  | upgradeEnter
  | upgradeExit
  | getUpgradeData
  | upgradeReconnectAgain
deriving DecidableEq

/-- The messages that the modules left out post. -/
def postedElsewhere : List CoreMessage :=
  [.serverConnected, .serverDisconnected, .reconnectServer, .connectServerErr, .registerErr,
    .dateOk, .sendJson, .sendJsonAgain, .sendJsonFinished, .enterSettingMode, .exitSettingMode,
    .settingRespToApp, .settingSendIdToApp, .settingScStart, .settingScStop, .settingScRestart,
    .enterSettingSelfapMode, .exitSettingSelfapMode, .upgradeEnter, .upgradeExit,
    .getUpgradeData, .upgradeReconnectAgain]

/-- The callback of `join_ap_timer`: `joinAPTimerCallback` or `joinAPStage2`. -/
inductive JoinStage where
  | connect
  | wait
deriving DecidableEq

/-- `posted` is a call of `system_os_post`, also on a full queue; `ownerUuid` and
`ownerInvalid` are the two writes to the owner; `acted` is a request that is acted upon:
its callback called, its message posted or the server's address changed. -/
inductive CoreLog where
  | handled (message : CoreMessage)
  | posted (message : CoreMessage)
  | ownerUuid (apikey : List UInt8)
  | ownerInvalid
  | acted (type : IoTgoPkgType) (apikey : List UInt8)
deriving DecidableEq

structure CoreState where
  mode : IoTgoDeviceMode
  ownerUuid : List UInt8
  serverSequence : List UInt8
  serverInfo : List UInt8 × Int
  regInterval : Nat
  heartbeatMaxOffset : Nat
  pingCounter : Nat
  pongCounter : Nat
  clientTcpInitialized : Bool
  isFirstActionDate : Bool
  modeMonitorCnt : Nat
  startTimer : Bool
  heartbeatTimer : Bool
  tryRegTimer : Bool
  tryConnTimer : Bool
  tryDistorTimer : Bool
  gmtTimer : Bool
  settingExitTimer : Bool
  selfapExitTimer : Bool
  joinApTimer : Option JoinStage
  joinCounter : Nat
  inbox : List CoreMessage
  log : List CoreLog

def CoreState.initial : CoreState where
  mode := .start
  ownerUuid := []
  serverSequence := asciiBytes "Invalid sequence"
  serverInfo := ([], 0)
  regInterval := 15
  heartbeatMaxOffset := 7
  pingCounter := 0
  pongCounter := 0
  clientTcpInitialized := false
  isFirstActionDate := false
  modeMonitorCnt := 0
  startTimer := true
  heartbeatTimer := false
  tryRegTimer := false
  tryConnTimer := false
  tryDistorTimer := false
  gmtTimer := false
  settingExitTimer := false
  selfapExitTimer := false
  joinApTimer := none
  joinCounter := 0
  inbox := []
  log := []

/-- The factory data of the device, its callbacks that are not null, and the parser of the
SDK. -/
structure CoreBoard where
  deviceid : List UInt8
  factoryApikey : List UInt8
  reqOfUpdateCallback : Bool
  reqOfQueryCallback : Bool
  reqofNotityCallback : Bool
  jsonparse : List UInt8 → List JsonToken

/-- `gotIp` is `STATION_GOT_IP` of `wifi_station_get_connect_status`, `lost` neither that
nor `STATION_CONNECTING`; `due` that the heartbeat period is over; `memory` a successful
`os_malloc`; `answer` what the distributor sent; `connTcp` a call of `connTCP`. -/
inductive CoreEvent where
  | handle (memory : Bool)
  | package (pdata : List UInt8) (len : Nat)
  | startTimer
  | modeMonitor
  | heartbeatTimer (due : Bool)
  | tryRegTimer
  | tryConnTimer
  | tryDistorTimer
  | gmtTimer
  | settingExitTimer (gotIp : Bool)
  | selfapExitTimer
  | joinApTimer (ok : Bool)
  | wifiDisconnected (lost : Bool)
  | distributor (answer : Option (List UInt8 × Int))
  | connTcp
  | post (message : CoreMessage)

section Functions

variable (state : CoreState)

def CoreState.device (board : CoreBoard) : IoTgoDevice where
  deviceid := board.deviceid
  factoryApikey := board.factoryApikey
  ownerUuid := state.ownerUuid

def systemOsPost (message : CoreMessage) : CoreState :=
  { state with
    inbox := if state.inbox.length < coreQueueLength then state.inbox ++ [message] else state.inbox
    log := state.log ++ [.posted message] }

def iotgoSetDeviceMode (mode : IoTgoDeviceMode) : CoreState :=
  { state with mode := mode }

/-- The test most handlers begin with. -/
def Setting : Prop :=
  state.mode = .setting ∨ state.mode = .settingSelfap

instance : Decidable (Setting state) :=
  inferInstanceAs (Decidable (_ ∨ _))

def cancelRetryRegisterStrategy : CoreState :=
  { state with tryRegTimer := false }

def cancelRetryConnServerStrategy : CoreState :=
  { state with tryConnTimer := false }

def cancelRetryDistorStrategy : CoreState :=
  { state with tryDistorTimer := false }

def cancelRetryStrategies : CoreState :=
  cancelRetryDistorStrategy (cancelRetryConnServerStrategy (cancelRetryRegisterStrategy state))

def iotgoCoreHeartbeatStart : CoreState :=
  { state with heartbeatTimer := true, pingCounter := 0, pongCounter := 0 }

def iotgoCoreHeartbeatStop : CoreState :=
  { state with heartbeatTimer := false, pingCounter := 0, pongCounter := 0 }

def doNotifyConfig (hb hbi : Int) : CoreState :=
  if hb = 1 then iotgoCoreHeartbeatStart { state with heartbeatMaxOffset := uint32 hbi }
  else iotgoCoreHeartbeatStop state

def iotgoPconnDisconnect : CoreState :=
  if state.clientTcpInitialized then iotgoCoreHeartbeatStop state else state

def iotgoWifiLeave : CoreState :=
  { state with joinCounter := 0, joinApTimer := none }

def iotgoWifiJoin : CoreState :=
  { state with joinApTimer := some .connect }

end Functions

section Receive

def applyEffect (state : CoreState) : PkgEffect → CoreState
  | .serverSequence text => { state with serverSequence := text }
  | .serverInfo host port => { state with serverInfo := (host, port) }
  | .notifyConfig hb hbi => doNotifyConfig state hb hbi
  | .ownerUuid apikey =>
      { state with ownerUuid := apikey, log := state.log ++ [.ownerUuid apikey] }
  | .regInterval regi => { state with regInterval := regi }

def acted (state : CoreState) (type : IoTgoPkgType) (apikey : List UInt8) : CoreState :=
  { state with log := state.log ++ [.acted type apikey] }

variable (board : CoreBoard)

/-- The `switch` of `clientTCPSproOnePkgCb`; `apikey` is that of the package. -/
def dispatchPkg (state : CoreState) (apikey : List UInt8) : IoTgoPkgType → CoreState
  | .respOfUpdate => iotgoSetDeviceMode state .workNormal
  | .respOfQuery => iotgoSetDeviceMode state .workNormal
  | .respOfDate => iotgoSetDeviceMode state .workNormal
  | .reqOfUpdate =>
      let normal := iotgoSetDeviceMode state .workNormal
      if board.reqOfUpdateCallback then acted normal .reqOfUpdate apikey else normal
  | .reqOfRedirect =>
      systemOsPost (acted (iotgoSetDeviceMode state .workNormal) .reqOfRedirect apikey) .redirect
  | .reqOfNotifyConfig =>
      let called := acted (iotgoSetDeviceMode state .workNormal) .reqOfNotifyConfig apikey
      if board.reqofNotityCallback then called else systemOsPost called .notifyConfig
  | .reqOfQuery =>
      let normal := iotgoSetDeviceMode state .workNormal
      if board.reqOfQueryCallback then acted normal .reqOfQuery apikey else normal
  | .respOfInit => systemOsPost state .registered
  | .reqOfUpgrade => acted state .reqOfUpgrade apikey
  | .retOfRestart => acted state .retOfRestart apikey
  | .respOfInitFailed => systemOsPost state .registerErr
  | .errorOfForbidden => state
  | .invalid => state

def pkgFields (data : List UInt8) : PkgFields :=
  scanFields (board.jsonparse (cString data))

def handlePkg (state : CoreState) (data : List UInt8) : CoreState :=
  let parsed := parseTypeOfIoTgoPkg board.jsonparse (state.device board) data
  dispatchPkg board (parsed.2.foldl applyEffect state) ((pkgFields board data).apikey.getD [])
    parsed.1

def clientTCPSproOnePkgCb (state : CoreState) (pdata : List UInt8) (len : Nat) : CoreState :=
  match FrameDispatch.clientTCPSproOnePkgCb pdata len with
  | .wsConnected => systemOsPost state .wsConnected
  | .pingOk => systemOsPost state .wsPingOk
  | .parsed data => handlePkg board state data
  | .ignored _ => state

end Receive

section Timers

variable (state : CoreState)

def cbModeMonitorTimer : CoreState :=
  if state.mode = .workApErr ∨ state.mode = .workApOk ∨ state.mode = .workInit then
    if 60 ≤ state.modeMonitorCnt + 1 then systemOsPost { state with modeMonitorCnt := 0 } .joinAp
    else { state with modeMonitorCnt := state.modeMonitorCnt + 1 }
  else { state with modeMonitorCnt := 0 }

def tryDistorTmrCb : CoreState :=
  if state.mode ≠ .workInit ∧ state.mode ≠ .workNormal ∧ state.mode ≠ .workApErr ∧
      state.mode ≠ .setting then
    systemOsPost state .distributor
  else state

def gmtTimerCallback : CoreState :=
  if state.mode = .workNormal then systemOsPost state .date else state

def setExitTimerCallback (gotIp : Bool) : CoreState :=
  if gotIp then systemOsPost (iotgoSetDeviceMode state .workApOk) .distributor
  else systemOsPost state .joinAp

def setSelfapExitTimerCallback : CoreState :=
  systemOsPost (iotgoSetDeviceMode state .workApErr) .joinAp

def joinAPTimerCallback (connectOk : Bool) : CoreState :=
  if connectOk then { iotgoWifiLeave state with joinApTimer := some .wait }
  else iotgoWifiLeave state

def joinAPStage2 (gotIp : Bool) : CoreState :=
  let counted := { state with joinCounter := (state.joinCounter + 1) % 256 }
  if gotIp then
    { systemOsPost counted (if state.mode = .setting then .settingRespToApp else .apJoined) with
      joinCounter := 0
      joinApTimer := none }
  else if 10 ≤ counted.joinCounter then
    systemOsPost (iotgoWifiLeave counted)
      (if state.mode = .setting then .settingRespToApp else .joinApErr)
  else counted

def iotgoWiFiEventHander (lost : Bool) : CoreState :=
  if state.mode = .workApErr ∨ state.mode = .workApOk ∨ state.mode = .workInit ∨
      state.mode = .workNormal then
    if lost then systemOsPost state .joinAp else state
  else state

end Timers

section Task

variable (state : CoreState)

/-- The test on the two counters, whose difference is taken in 32 bits. -/
def pongsMissing : Bool :=
  2 ≤ uint32 ((state.pingCounter : Int) - state.pongCounter)

/-- A ping goes out and is counted. -/
def sendPing : CoreState :=
  { state with pingCounter := (state.pingCounter + 1) % 4294967296 }

/-- The placeholder is written once there is memory for the request. -/
def iotgoPconnDeviceRegister (memory : Bool) : CoreState :=
  if memory then
    { state with
      ownerUuid := asciiBytes "Invalid owner uuid"
      log := state.log ++ [.ownerInvalid] }
  else state

def taskIoTgoNetworkCenter (memory : Bool) : CoreMessage → CoreState
  | .joinAp => iotgoWifiJoin (iotgoSetDeviceMode (cancelRetryStrategies state) .workApErr)
  | .joinApErr => systemOsPost (iotgoSetDeviceMode state .workApErr) .joinAp
  | .apJoined => systemOsPost (iotgoSetDeviceMode state .workApOk) .distributor
  | .distributor =>
      if state.mode = .setting then state
      else cancelRetryConnServerStrategy (cancelRetryRegisterStrategy state)
  | .distributorFinished ok =>
      if ok then systemOsPost state .connectServer else { state with tryDistorTimer := true }
  | .redirect => systemOsPost (iotgoPconnDisconnect state) .connectServerAgain
  | .notifyConfig => state
  | .connectServer =>
      if Setting state ∨ state.mode = .workNormal then state
      else cancelRetryRegisterStrategy state
  | .connectServerAgain =>
      if Setting state then state
      else { iotgoSetDeviceMode state .workApOk with tryConnTimer := true }
  | .connectServerErr => systemOsPost (iotgoCoreHeartbeatStop state) .connectServerAgain
  | .reconnectServer => systemOsPost (iotgoCoreHeartbeatStop state) .connectServerAgain
  | .serverDisconnected => systemOsPost (iotgoCoreHeartbeatStop state) .connectServerAgain
  | .serverConnected => systemOsPost state .wsConnect
  | .wsConnect => state
  | .wsConnected => systemOsPost (iotgoCoreHeartbeatStart state) .register
  | .register =>
      if Setting state then state
      else iotgoPconnDeviceRegister (iotgoSetDeviceMode state .workInit) memory
  | .registered =>
      if Setting state then state
      else
        { systemOsPost { iotgoSetDeviceMode state .workNormal with isFirstActionDate := true }
            .date with
          gmtTimer := true }
  | .registerErr => { state with tryRegTimer := true }
  | .date => state
  | .dateOk => { state with isFirstActionDate := false }
  | .wsPing => sendPing (if pongsMissing state then iotgoPconnDisconnect state else state)
  | .wsPingOk => { state with pongCounter := (state.pongCounter + 1) % 4294967296 }
  | .upgradeEnter => state
  | .upgradeExit => iotgoSetDeviceMode state .workNormal
  | .upgradeReconnectAgain => state
  | .getUpgradeData => state
  | .sendJson => state
  | .sendJsonAgain => state
  | .sendJsonFinished => state
  | .enterSettingMode =>
      systemOsPost
        (iotgoWifiLeave
          (cancelRetryStrategies (iotgoPconnDisconnect (iotgoSetDeviceMode state .setting))))
        .settingScStart
  | .exitSettingMode => { state with settingExitTimer := true }
  | .settingSendIdToApp => state
  | .settingRespToApp => state
  | .enterSettingSelfapMode =>
      iotgoWifiLeave
        (cancelRetryStrategies (iotgoPconnDisconnect (iotgoSetDeviceMode state .settingSelfap)))
  | .exitSettingSelfapMode => { state with selfapExitTimer := true }
  | .settingScStart => state
  | .settingScStop => state
  | .settingScRestart => systemOsPost state .settingScStart

/-- The task takes a message out of its queue. -/
def takeMessage (memory : Bool) (message : CoreMessage) (rest : List CoreMessage) : CoreState :=
  taskIoTgoNetworkCenter
    { state with inbox := rest, log := state.log ++ [.handled message] } memory message

def distorAnswered (answer : Option (List UInt8 × Int)) : CoreState :=
  match answer with
  | some info => systemOsPost { state with serverInfo := info } (.distributorFinished true)
  | none => systemOsPost state (.distributorFinished false)

/-- A timer fires where it is armed, and a message is handled where there is one. -/
def coreExec (board : CoreBoard) : CoreEvent → Option CoreState
  | .handle memory =>
      match state.inbox with
      | [] => none
      | message :: rest => some (takeMessage state memory message rest)
  | .package pdata len => some (clientTCPSproOnePkgCb board state pdata len)
  | .startTimer =>
      if state.startTimer then some (systemOsPost { state with startTimer := false } .joinAp)
      else none
  | .modeMonitor => some (cbModeMonitorTimer state)
  | .heartbeatTimer due =>
      if state.heartbeatTimer then some (if due then systemOsPost state .wsPing else state)
      else none
  | .tryRegTimer =>
      if state.tryRegTimer then some (systemOsPost { state with tryRegTimer := false } .register)
      else none
  | .tryConnTimer =>
      if state.tryConnTimer then
        some (systemOsPost { state with tryConnTimer := false } .connectServer)
      else none
  | .tryDistorTimer =>
      if state.tryDistorTimer then some (tryDistorTmrCb { state with tryDistorTimer := false })
      else none
  | .gmtTimer => if state.gmtTimer then some (gmtTimerCallback state) else none
  | .settingExitTimer gotIp =>
      if state.settingExitTimer then
        some (setExitTimerCallback { state with settingExitTimer := false } gotIp)
      else none
  | .selfapExitTimer =>
      if state.selfapExitTimer then
        some (setSelfapExitTimerCallback { state with selfapExitTimer := false })
      else none
  | .joinApTimer ok =>
      match state.joinApTimer with
      | none => none
      | some .connect => some (joinAPTimerCallback { state with joinApTimer := none } ok)
      | some .wait => some (joinAPStage2 state ok)
  | .wifiDisconnected lost => some (iotgoWiFiEventHander state lost)
  | .distributor answer => some (distorAnswered state answer)
  | .connTcp => some { state with clientTcpInitialized := true }
  | .post message => if message ∈ postedElsewhere then some (systemOsPost state message) else none

def coreStep (board : CoreBoard) (state : CoreState) (event : CoreEvent) (next : CoreState) :
    Prop :=
  coreExec state board event = some next

end Task

end IotgoFirmware.Core.CoreTask
