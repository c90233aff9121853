import IotgoFirmware.Core.PkgScan
import IotgoFirmware.Library.StepRuns
import IotgoFirmware.Send.SendJson

/-!
# The server of the setting modes

`iotgo_setting.c` as the core task drives it: in a setting mode the device listens for
an app, answers its requests out of two buffers, and passes what it receives to a
receive object. Buffers and object are made by `iotgoSettingServerStart` and freed by
`iotgoSettingServerStop`, which three timers call; requests wait as messages in the
queue of the core task, and an answer waits 3 ms in a timer of its own.

Other messages of the core task only take their turn here, and what they do to the
device mode comes as an event. A function that reads through a null buffer halts the
device; `spTcpRecv` of a null object returns at once.
-/

namespace IotgoFirmware.Setting.SettingServer

open IotgoFirmware.Core.PkgScan
open IotgoFirmware.Library.CIntegers
open IotgoFirmware.Library.CStrings
open IotgoFirmware.Library.JsonDocuments
open IotgoFirmware.Send.SendJson (IoTgoDeviceMode coreQueueLength)

set_option autoImplicit false

/-- What `wifi_station_get_connect_status` returns. -/
inductive StationStatus where
  | idle
  | connecting
  | wrongPassword
  | noApFound
  | connectFail
  | gotIp
deriving DecidableEq

inductive SettingSignal where
  | enterSettingMode
  | exitSettingMode
  | settingSendIdToApp
  | settingRespToApp (par : StationStatus)
  | enterSettingSelfapMode
  | exitSettingSelfapMode
  | settingScStart
  | settingScStop
  | settingScRestart
  | other (signal : Nat)
deriving DecidableEq

/-- What a request to `/ap` changes in `iotgo_flash_param`. -/
structure SavedParam where
  host : List UInt8
  port : Int
  staConfig : Option (List UInt8 × List UInt8)
deriving DecidableEq

/-- `live` tells whether `spTcpRecv` is given an object or null. -/
inductive SettingLog where
  | spTcpRecv (live : Bool)
  | saved (param : SavedParam)
  | sent (text : List UInt8)
deriving DecidableEq

/-- A buffer is null or holds some text; `leaked` counts the receive objects that live on
without a pointer to them. -/
structure SettingState where
  mode : IoTgoDeviceMode
  httpBuffer : Option (List UInt8)
  jsonBuffer : Option (List UInt8)
  spro : Bool
  leaked : Nat
  isSettingStarted : Bool
  listening : Bool
  exitSettingFlag : Bool
  startTcpListenTimer : Bool
  waitingClientTimer : Bool
  delayRespAppTimer : Bool
  settingExitTimer : Bool
  selfapExitTimer : Bool
  inbox : List SettingSignal
  halted : Bool
  log : List SettingLog

def SettingState.initial : SettingState where
  mode := .start
  httpBuffer := none
  jsonBuffer := none
  spro := false
  leaked := 0
  isSettingStarted := false
  listening := false
  exitSettingFlag := false
  startTcpListenTimer := false
  waitingClientTimer := false
  delayRespAppTimer := false
  settingExitTimer := false
  selfapExitTimer := false
  inbox := []
  halted := false
  log := []

/-- The parser of the SDK, and what `json_ws_send` prints of `id_to_app`. -/
structure SettingBoard where
  jsonparse : List UInt8 → List JsonToken
  idToApp : List UInt8

/-- What the allocations of `iotgoSettingServerStart` return: an object or null, and buffers
with whatever the memory holds. -/
structure ServerMemory where
  spro : Bool
  httpBuffer : Option (List UInt8)
  jsonBuffer : Option (List UInt8)

/-- `package` is a call of `svrSproOnePkgCb`; `setMode` and `post` are for the rest of the
firmware. -/
inductive SettingEvent where
  | handle (memory : ServerMemory)
  | recv
  | package (pdata : List UInt8)
  | startTcpListenTimer
  | waitingClientTimer
  | delayRespAppTimer
  | settingExitTimer
  | selfapExitTimer
  | setMode (mode : IoTgoDeviceMode)
  | post (signal : SettingSignal)

section Request

/-- The local variables of the scan in `svrSproOnePkgCb`; each is set where its flag is. -/
structure ApFields where
  ssid : Option (List UInt8)
  password : Option (List UInt8)
  serverName : Option (List UInt8)
  port : Option Int

def ApFields.initial : ApFields where
  ssid := none
  password := none
  serverName := none
  port := none

/-- A field of the wrong type ends the scan. -/
def readApField {Value : Type} (fields : ApFields) (set : Value → ApFields) :
    Option Value → Except ApFields (ApFields × Nat)
  | some value => .ok (set value, 2)
  | none => .error fields

/-- A field that comes again replaces what was read before. -/
def readApName (fields : ApFields) (name : List UInt8) (rest : List JsonToken) :
    Except ApFields (ApFields × Nat) :=
  if Matches name (asciiBytes "ssid") then
    readApField fields (fun text => { fields with ssid := some text })
      (jsonIoTgoGetString rest 32)
  else if Matches name (asciiBytes "password") then
    readApField fields (fun text => { fields with password := some text })
      (jsonIoTgoGetString rest 64)
  else if Matches name (asciiBytes "serverName") then
    readApField fields (fun text => { fields with serverName := some text })
      (jsonIoTgoGetString rest 51)
  else if Matches name (asciiBytes "port") then
    readApField fields (fun value => { fields with port := some value }) (jsonIoTgoGetNumber rest)
  else .ok (fields, 0)

def scanApFields (tokens : List JsonToken) : ApFields :=
  scanLast readApName .initial tokens

/-- The scan of a package with `POST /ap` and both braces, from the first one on. -/
def apFields (board : SettingBoard) (pdata : List UInt8) : ApFields :=
  match strstr pdata (asciiBytes "\x7b") with
  | none => .initial
  | some start =>
      if (strstr pdata (asciiBytes "POST /ap HTTP/1.1")).isSome ∧
          (strstr pdata (asciiBytes "\x7d")).isSome then
        scanApFields (board.jsonparse (cString (pdata.drop start)))
      else .initial

end Request

section Functions

variable (state : SettingState)

def systemOsPost (signal : SettingSignal) : SettingState :=
  if state.inbox.length < coreQueueLength then { state with inbox := state.inbox ++ [signal] }
  else state

def logged (entry : SettingLog) : SettingState :=
  { state with log := state.log ++ [entry] }

/-- `iotgo_flash_param` is saved, and an answer is posted. -/
def saveAndRespond (param : SavedParam) : SettingState :=
  systemOsPost (logged state (.saved param)) (.settingRespToApp .gotIp)

def svrSproOnePkgCb (board : SettingBoard) (pdata : List UInt8) : SettingState :=
  if (strstr pdata (asciiBytes "GET /device HTTP/1.1")).isSome then
    systemOsPost state .settingSendIdToApp
  else
    let fields := apFields board pdata
    match fields.serverName, fields.port with
    | some host, some port =>
        if state.mode = .setting then saveAndRespond state ⟨host, port, none⟩
        else
          match fields.ssid, fields.password with
          | some ssid, some password =>
              if state.mode = .settingSelfap then
                saveAndRespond state ⟨host, port, some (ssid, password)⟩
              else state
          | _, _ => state
    | _, _ => state

def svrTCPRecvCallback : SettingState :=
  if state.isSettingStarted then logged state (.spTcpRecv state.spro) else state

/-- The answer that both senders put together in `setting_mode_http_buffer`. -/
def httpAnswer (json : List UInt8) : List UInt8 :=
  asciiBytes "HTTP/1.1 200 OK\r\nContent-Type: application/json\r\n" ++
    asciiBytes "Connection: keep-alive\r\nContent-Length: " ++ decimalText json.length ++
    asciiBytes "\r\n\r\n" ++ json

def halt : SettingState :=
  { state with halted := true }

/-- Both buffers are cleared and filled. -/
def fillBuffers (json : List UInt8) : SettingState :=
  if state.jsonBuffer.isSome ∧ state.httpBuffer.isSome then
    { state with jsonBuffer := some json, httpBuffer := some (httpAnswer json) }
  else halt state

def espconnSend : SettingState :=
  match state.httpBuffer with
  | none => halt state
  | some text => logged state (.sent text)

def iotgoSettingSendDeviceInfoToApp (board : SettingBoard) : SettingState :=
  let filled := fillBuffers { state with waitingClientTimer := false } board.idToApp
  if filled.halted then filled else espconnSend filled

def postExit : SettingState :=
  if state.mode = .setting then systemOsPost state .exitSettingMode
  else if state.mode = .settingSelfap then systemOsPost state .exitSettingSelfapMode
  else state

def settingDelayRespAppTimerCb : SettingState :=
  let sent := espconnSend state
  if sent.halted then sent
  else if sent.exitSettingFlag then postExit sent
  else sent

def respText : StationStatus → List UInt8
  | .gotIp => asciiBytes "\x7b\"error\":0\x7d"
  | .connecting => asciiBytes "\x7b\"error\":400,\"reason\":\"timeout\"\x7d"
  | .wrongPassword => asciiBytes "\x7b\"error\":401,\"reason\":\"Wrong password\"\x7d"
  | .noApFound => asciiBytes "\x7b\"error\":402,\"reason\":\"No AP found\"\x7d"
  | .connectFail => asciiBytes "\x7b\"error\":403,\"reason\":\"Connect failed\"\x7d"
  | .idle => asciiBytes "\x7b\"error\":404,\"reason\":\"Unknown exception\"\x7d"

def iotgoSettingSendRespToApp (par : StationStatus) : SettingState :=
  let filled := fillBuffers state (respText par)
  if filled.halted then filled
  else { filled with exitSettingFlag := decide (par = .gotIp), delayRespAppTimer := true }

/-- The receive object is released with its timer. -/
def iotgoSettingServerStop : SettingState :=
  { state with
    isSettingStarted := false
    waitingClientTimer := false
    httpBuffer := none
    jsonBuffer := none
    spro := false }

/-- An object that is there already is replaced, and lives on. -/
def iotgoSettingServerStart (memory : ServerMemory) : SettingState :=
  { state with
    leaked := if state.spro then state.leaked + 1 else state.leaked
    spro := memory.spro
    httpBuffer := memory.httpBuffer
    jsonBuffer := memory.jsonBuffer
    isSettingStarted := true
    startTcpListenTimer := true
    waitingClientTimer := decide (state.mode = .setting) }

def cbWaitingClientTmr : SettingState :=
  systemOsPost (iotgoSettingServerStop state) .settingScStart

/-- The message that the exit posts is one of the core task's own. -/
def setExitTimerCallback : SettingState :=
  iotgoSettingServerStop state

def setSelfapExitTimerCallback : SettingState :=
  { iotgoSettingServerStop state with mode := .workApErr }

end Functions

section Task

variable (board : SettingBoard) (state : SettingState)

def taskIoTgoNetworkCenter (memory : ServerMemory) : SettingSignal → SettingState
  | .enterSettingMode => systemOsPost { state with mode := .setting } .settingScStart
  | .exitSettingMode => { state with settingExitTimer := true }
  | .settingSendIdToApp => iotgoSettingSendDeviceInfoToApp state board
  | .settingRespToApp par => iotgoSettingSendRespToApp state par
  | .enterSettingSelfapMode => iotgoSettingServerStart { state with mode := .settingSelfap } memory
  | .exitSettingSelfapMode => { state with selfapExitTimer := true }
  | .settingScStart => state
  | .settingScStop => iotgoSettingServerStart state memory
  | .settingScRestart => systemOsPost state .settingScStart
  | .other _ => state

/-- A timer fires where it is armed, bytes come once the device listens, and a package where
there is an object to make it. -/
def settingExec : SettingEvent → Option SettingState
  | .handle memory =>
      match state.inbox with
      | [] => none
      | signal :: rest =>
          some (taskIoTgoNetworkCenter board { state with inbox := rest } memory signal)
  | .recv => if state.listening then some (svrTCPRecvCallback state) else none
  | .package pdata =>
      if state.spro = true ∨ 0 < state.leaked then some (svrSproOnePkgCb state board pdata)
      else none
  | .startTcpListenTimer =>
      if state.startTcpListenTimer then
        some { state with startTcpListenTimer := false, listening := true }
      else none
  | .waitingClientTimer =>
      if state.waitingClientTimer then some (cbWaitingClientTmr state) else none
  | .delayRespAppTimer =>
      if state.delayRespAppTimer then
        some (settingDelayRespAppTimerCb { state with delayRespAppTimer := false })
      else none
  | .settingExitTimer =>
      if state.settingExitTimer then
        some (setExitTimerCallback { state with settingExitTimer := false })
      else none
  | .selfapExitTimer =>
      if state.selfapExitTimer then
        some (setSelfapExitTimerCallback { state with selfapExitTimer := false })
      else none
  | .setMode mode => some { state with mode := mode }
  | .post signal => some (systemOsPost state signal)

/-- A device that has halted takes no further step. -/
def settingStep (event : SettingEvent) (next : SettingState) : Prop :=
  state.halted = false ∧ settingExec board state event = some next

end Task

end IotgoFirmware.Setting.SettingServer
