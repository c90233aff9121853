import IotgoFirmware.Core.CoreTask
import IotgoFirmware.Mcu.FlowControl
import IotgoFirmware.Mcu.TcQueue
import IotgoFirmware.Timers.TimerProc

/-!
# The handlers of the commands of the MCU

Each command of the table of `FWTRX_TC.c` has a handler, which gets the array of the
command. A handler that succeeds has told the MCU the result; an error is told by
`processErrorCmd`.
-/

namespace IotgoFirmware.Mcu.CmdHandlers

open IotgoFirmware.Core.CoreTask (CoreMessage)
open IotgoFirmware.Library.CFaults
open IotgoFirmware.Library.CJsonItems
open IotgoFirmware.Library.CStrings
open IotgoFirmware.Mcu.FlowControl (TcFlow IotgoDevice CmdBoard)
open IotgoFirmware.Mcu.TcQueue (TcState RespondCmd)
open IotgoFirmware.Send.SendJson (IoTgoDeviceMode)
open IotgoFirmware.Timers.TimerClock (IoTgoGMTTime)
open IotgoFirmware.Timers.TimerFlash
open IotgoFirmware.Timers.TimerMap
open IotgoFirmware.Timers.TimerProc
open IotgoFirmware.Uart.U2artSchedule (U2artError errorCode)

set_option autoImplicit false

section Texts

/-- `%d`. -/
def intText (number : Int) : List UInt8 :=
  if number < 0 then 45 :: decimalText number.natAbs else decimalText number.natAbs

/-- `%0*u`. -/
def paddedText (width number : Nat) : List UInt8 :=
  List.replicate (width - (decimalText number).length) 48 ++ decimalText number

def hexDigit (digit : Nat) : UInt8 :=
  UInt8.ofNat (if digit < 10 then 48 + digit else 55 + digit)

/-- `%02X`. -/
def hexText (byte : UInt8) : List UInt8 :=
  [hexDigit (byte.toNat / 16), hexDigit (byte.toNat % 16)]

/-- What `iotgoStationMac` and `iotgoSapMac` return: the empty text as long as
`wifi_get_macaddr` fails. -/
def macText (mac : Option (Fin 6 → UInt8)) : List UInt8 :=
  match mac with
  | none => []
  | some mac =>
      hexText (mac 0) ++ 58 :: hexText (mac 1) ++ 58 :: hexText (mac 2) ++ 58 :: hexText (mac 3) ++
        58 :: hexText (mac 4) ++ 58 :: hexText (mac 5)

/-- `%04u-%02u-%02uT%02u:%02u:%02uZ`. -/
def gmtText (gmt : IoTgoGMTTime) : List UInt8 :=
  paddedText 4 gmt.year.toNat ++ 45 :: paddedText 2 gmt.month.toNat ++
    45 :: paddedText 2 gmt.day.toNat ++ 84 :: paddedText 2 gmt.hour.toNat ++
    58 :: paddedText 2 gmt.minute.toNat ++ 58 :: paddedText 2 gmt.second.toNat ++ [90]

end Texts

section State

structure TcConfig where
  baudrate : UInt32
  crcEnable : Bool
  watchDog : UInt8
  sledOff : Bool
  stateInfo : UInt8
  timerSync : Bool

inductive TcTimer where
  | modifyBaudrate
  | watchDog
  | queryState
  | enterApMode
  | enterEsptouchMode

/-- One frame to the MCU: by `cmdSendDataToMcu`, by `cmdSendRetToMcu`, or the answer of the
timers, which is printed and goes out by the latter. -/
inductive McuFrame where
  | data (text : List UInt8)
  | ret (data : List UInt8)
  | timers (reply : ManagerReply)

inductive CmdEffect where
  | frame (frame : McuFrame)
  | saveConfig (config : TcConfig)
  | arm (timer : TcTimer) (milliseconds : Nat) (again : Bool)
  | disarm (timer : TcTimer)
  | postCore (message : CoreMessage)
  | postUpdateTimer
  | package (package : CJsonItem)

structure CmdState where
  tcConfig : TcConfig
  normalModeLedOff : Bool
  crcEnable : Bool
  tmrMsgFlag : Bool
  flow : TcFlow
  timers : TimerState
  tc : TcState
  log : List CmdEffect

/-- What the handlers read of the rest of the firmware, and the results of its functions.
The factory writes ids of ten characters. -/
structure CmdReads where
  mode : IoTgoDeviceMode
  iotgoWifiRssi : Int8
  gmtTime : IoTgoGMTTime
  device : IotgoDevice
  deviceidShort : strlen device.deviceid ≤ 10
  stationMac : Option (Fin 6 → UInt8)
  sapMac : Option (Fin 6 → UInt8)
  created : Bool
  sendIoTgoPkg : Int8

def CmdEffect.isFrame : CmdEffect → Bool
  | .frame _ => true
  | _ => false

def CmdState.frames (state : CmdState) : Nat :=
  state.log.countP CmdEffect.isFrame

def CmdState.emit (state : CmdState) (effect : CmdEffect) : CmdState :=
  { state with log := state.log ++ [effect] }

end State

abbrev CmdRun := Checked (U2artError × CmdState)

section Answers

variable (state : CmdState)

def refuse (answer : U2artError) : CmdRun :=
  .ok (answer, state)

/-- `cmdSendDataToMcu` takes every text that is not empty. -/
def sendText (text : List UInt8) : U2artError × CmdState :=
  if text = [] then (.insideError, state) else (.success, state.emit (.frame (.data text)))

/-- `["ret",0]`. -/
def retZero : List UInt8 :=
  asciiBytes "[\"ret\",0]"

/-- A text of several parts, put together in a local array of `size` bytes. -/
def sendBuffer (size : Nat) (parts : List (List UInt8)) : CmdRun := do
  let temp ← strcpy size (parts.flatMap cString)
  return sendText state temp

/-- The texts of the mac are looked at before they are sent. -/
def sendMac (size : Nat) (mac : Option (Fin 6 → UInt8)) : CmdRun := do
  let temp ← strcpy size
    ([asciiBytes "[\"ret\",\"", macText mac, asciiBytes "\"]"].flatMap cString)
  if temp.getD 1 0 ≠ 0 then return sendText state temp
  else refuse state .insideError

def withoutArgs (root : CJsonItem) (run : CmdRun) : CmdRun :=
  if root.type ≠ .array ∨ cJSONGetArraySize root ≠ 1 then refuse state .invalidParams else run

def withNumber (root : CJsonItem) (run : Int → CmdRun) : CmdRun :=
  if root.type ≠ .array ∨ cJSONGetArraySize root ≠ 2 then refuse state .invalidParams
  else
    match cJSONGetArrayItem root 1 with
    | none => refuse state .invalidParams
    | some item =>
        if item.type ≠ .number then refuse state .invalidParams else run item.valueint

def CmdState.saveConfig (config : TcConfig) : CmdState :=
  { state with tcConfig := config }.emit (.saveConfig config)

end Answers

section Handlers

variable (world : TimerWorld) (reads : CmdReads) (state : CmdState) (root : CJsonItem)

def processTickCmd : CmdRun :=
  withoutArgs state root (.ok (sendText state (asciiBytes "[\"ret\",\"tock\"]")))

/-- The answer goes out at the old rate. -/
def processBaudCmd : CmdRun :=
  withNumber state root fun valueint =>
    if valueint ≠ 9600 ∧ valueint ≠ 115200 then refuse state .invalidParams
    else
      let saved := state.saveConfig { state.tcConfig with baudrate := UInt32.ofNat valueint.toNat }
      let answer := sendText saved retZero
      if answer.1 = .success then
        .ok (answer.1, (answer.2.emit (.disarm .modifyBaudrate)).emit
          (.arm .modifyBaudrate 100 false))
      else .ok answer

def processDogCmd : CmdRun :=
  withNumber state root fun valueint =>
    if valueint < 0 ∨ 60 < valueint then refuse state .invalidParams
    else
      let timed :=
        if valueint = 0 then state.emit (.disarm .watchDog)
        else state.emit (.arm .watchDog (1000 * valueint.toNat) true)
      .ok (sendText
        (timed.saveConfig { timed.tcConfig with watchDog := UInt8.ofInt valueint }) retZero)

def processSledCmd : CmdRun :=
  withNumber state root fun valueint =>
    let set := { state with normalModeLedOff := decide (valueint = 0) }
    .ok (sendText (set.saveConfig { set.tcConfig with sledOff := set.normalModeLedOff }) retZero)

/-- The number is stored in eight bits. -/
def processStateInfoCmd : CmdRun :=
  withNumber state root fun valueint =>
    let timed :=
      if valueint = 0 then state.emit (.disarm .queryState)
      else state.emit (.arm .queryState 1000 true)
    .ok (sendText
      (timed.saveConfig { timed.tcConfig with stateInfo := UInt8.ofInt valueint }) retZero)

/-- `TC_STATE_NORMAL` and the others; the modes that no branch names count as normal. -/
def tcStateOf : IoTgoDeviceMode → Nat
  | .workNormal => 1
  | .start => 2
  | .workApErr => 2
  | .workApOk => 3
  | .workInit => 4
  | .setting => 5
  | .settingSelfap => 6
  | .upgrade => 7
  | .factory => 1
  | .invalid => 1

def processStateCmd : CmdRun :=
  withoutArgs state root
    (sendBuffer state 20
      [asciiBytes "[\"ret\",", decimalText (tcStateOf reads.mode), asciiBytes "]"])

/-- The mode is looked at first. -/
def processRssiCmd : CmdRun :=
  if reads.mode ≠ .workNormal then refuse state .illegalOperation
  else
    withoutArgs state root
      (sendBuffer state 20
        [asciiBytes "[\"ret\",", intText reads.iotgoWifiRssi.toInt, asciiBytes "]"])

def processTimeCmd : CmdRun :=
  withoutArgs state root
    (sendBuffer state 50
      [if reads.gmtTime.year = 1970 then asciiBytes "[\"ret\",1,\"" else asciiBytes "[\"ret\",0,\"",
        gmtText reads.gmtTime, asciiBytes "\"]"])

/-- `dealSettingMode`: what it posts and arms, or -1 and -2 as errors. -/
def dealSettingMode (mode : Int) : Except U2artError (List CmdEffect) :=
  if mode = 1 then
    if reads.mode = .settingSelfap then .error .illegalOperation
    else if reads.mode = .setting then
      .ok [.postCore .exitSettingMode, .disarm .enterApMode, .arm .enterApMode 1500 false]
    else .ok [.postCore .enterSettingSelfapMode]
  else if mode = 2 then
    if reads.mode = .setting then .error .illegalOperation
    else if reads.mode = .settingSelfap then
      .ok [.postCore .exitSettingSelfapMode, .disarm .enterEsptouchMode,
        .arm .enterEsptouchMode 1500 false]
    else .ok [.postCore .enterSettingMode]
  else if mode = 3 then
    if reads.mode = .settingSelfap then .ok [.postCore .exitSettingSelfapMode]
    else if reads.mode = .setting then .ok [.postCore .exitSettingMode]
    else .error .illegalOperation
  else .error .invalidParams

def processSettingCmd : CmdRun :=
  withNumber state root fun valueint =>
    match dealSettingMode reads valueint with
    | .error answer => refuse state answer
    | .ok effects => .ok (sendText { state with log := state.log ++ effects } retZero)

/-- `IOTGO_FM_VERSION`. -/
def iotgoFmVersion : List UInt8 :=
  asciiBytes "1.0.0"

def processVersionCmd : CmdRun :=
  withoutArgs state root
    (sendBuffer state 30 [asciiBytes "[\"ret\",\"", iotgoFmVersion, asciiBytes "\"]"])

def processDeviceId : CmdRun :=
  withoutArgs state root
    (sendBuffer state 30 [asciiBytes "[\"ret\",\"", reads.device.deviceid, asciiBytes "\"]"])

def processStamacCmd : CmdRun :=
  withoutArgs state root (sendMac state 30 reads.stationMac)

/-- The array is as long as the mac alone. -/
def processSapMacCmd : CmdRun :=
  withoutArgs state root (sendMac state 18 reads.sapMac)

/-- The command is not empty, so the answer goes out. -/
def CmdReads.board : CmdBoard where
  mode := reads.mode
  created := reads.created
  sendIoTgoPkg := reads.sendIoTgoPkg
  cmdSendDataToMcu := true

/-- What a request to the server leaves. -/
def forwarded (result : FlowControl.RequestResult) : CmdRun :=
  let packages := result.package.toList.map CmdEffect.package
  let rets := if result.ret then [CmdEffect.frame (.data retZero)] else []
  .ok (result.answer, { state with flow := result.flow, log := state.log ++ packages ++ rets })

def processUpdateCmd : CmdRun :=
  forwarded state (FlowControl.processUpdateCmd reads.device state.flow (some root) reads.board)

def processQueryCmd : CmdRun :=
  forwarded state (FlowControl.processQueryCmd reads.device state.flow (some root) reads.board)

/-- A sequence and an error. -/
def respondArgs : Option (List UInt8 × Int) :=
  if root.type = .array ∧ cJSONGetArraySize root = 3 then
    match cJSONGetArrayItem root 1, cJSONGetArrayItem root 2 with
    | some (.string sequence), some (.number valueint _) => some (sequence, valueint)
    | _, _ => none
  else none

def respondPackage (sequence : List UInt8) (error : Int) : CJsonItem :=
  .object [(asciiBytes "userAgent", .string (asciiBytes "device")),
    (asciiBytes "apikey", .string reads.device.ownerUuid),
    (asciiBytes "deviceid", .string reads.device.deviceid),
    (asciiBytes "sequence", .string sequence), (asciiBytes "error", .number error error)]

/-- The package that goes to the server, if one does. -/
def respondPackages : Option CJsonItem :=
  if reads.mode = .workNormal ∧ reads.created then
    (respondArgs root).map fun args => respondPackage reads args.1 args.2
  else none

/-- The head of the queue is dropped whatever the arguments are. -/
def processRespondCmd : CmdRun :=
  let result := TcQueue.processRespondCmd state.tc
    ⟨(respondArgs root).isSome, reads.mode, reads.created, reads.sendIoTgoPkg, true⟩
  let packages := (respondPackages reads root).toList.map CmdEffect.package
  let next := { state with tc := result.2, log := state.log ++ packages }
  match result.1 with
  | .success => .ok (sendText next retZero)
  | .invalidParams => refuse next .invalidParams
  | .networkError => refuse next .networkError
  | .insideError => refuse next .insideError

/-- What five commands add to their object as its `timerAct`. -/
def timerActOf (name : List UInt8) : Option (List UInt8) :=
  if name = asciiBytes "tmrNew" then some (asciiBytes "new")
  else if name = asciiBytes "tmrEdit" then some (asciiBytes "edit")
  else if name = asciiBytes "tmrDel" then some (asciiBytes "del")
  else if name = asciiBytes "tmrEnable" then some (asciiBytes "enable")
  else if name = asciiBytes "tmrDisable" then some (asciiBytes "disable")
  else none

def timerActAllOf (name : List UInt8) : Option (List UInt8) :=
  if name = asciiBytes "tmrDelAll" then some (asciiBytes "delAll")
  else if name = asciiBytes "tmrEnableAll" then some (asciiBytes "enableAll")
  else if name = asciiBytes "tmrDisableAll" then some (asciiBytes "disableAll")
  else none

/-- `timerProcUpdate` for `TIMER_MCU`: its reply is the frame, and its result is not looked at. -/
def updateTimers (cjsonTimer : CJsonItem) : CmdRun := do
  let done ← timerProcUpdate world state.timers cjsonTimer
  return (.success, ({ state with timers := done.1 }.emit
    (.frame (.timers (.update done.2)))).emit .postUpdateTimer)

/-- The `timerAct` is put behind the members that the object has. -/
def processTimerUpdateWithParamCmd : CmdRun :=
  if root.type ≠ .array ∨ cJSONGetArraySize root ≠ 2 then refuse state .invalidParams
  else
    match cJSONGetArrayItem root 0, cJSONGetArrayItem root 1 with
    | some (.string valuestring), some (.object members) =>
        match timerActOf (cString valuestring) with
        | none => refuse state .invalidParams
        | some act =>
            updateTimers world state
              (cJSONAddStringToObject (.object members) (asciiBytes "timerAct") act)
    | _, _ => refuse state .invalidParams

def processTimerUpdateCmd : CmdRun :=
  if root.type ≠ .array ∨ cJSONGetArraySize root ≠ 1 then refuse state .invalidParams
  else
    match cJSONGetArrayItem root 0 with
    | some (.string valuestring) =>
        if !reads.created then refuse state .insideError
        else
          match timerActAllOf (cString valuestring) with
          | none => refuse state .invalidParams
          | some act =>
              updateTimers world state
                (cJSONAddStringToObject cJSONCreateObject (asciiBytes "timerAct") act)
    | _ => refuse state .invalidParams

def processTimerQueryDevCmd : CmdRun :=
  if root.type ≠ .array ∨ cJSONGetArraySize root ≠ 2 then refuse state .invalidParams
  else
    match cJSONGetArrayItem root 1 with
    | some (.array items) => do
        let reply ← timerProcQuery world state.timers (.array items)
        return (.success, state.emit (.frame (.timers reply)))
    | _ => refuse state .invalidParams

/-- No answer to an answer. -/
def processRetCmd : CmdRun :=
  let result := TcQueue.processRetCmd state.tc (decide (root.type = .array))
  let next := { state with tc := result.2 }
  if result.1 = .success then .ok (.success, next) else refuse next .invalidParams

/-- The answer goes out before the checksum is switched. -/
def processCrcCmd : CmdRun :=
  withNumber state root fun valueint =>
    let answer := sendText state retZero
    if answer.1 = .success then
      let set := { answer.2 with crcEnable := decide (valueint ≠ 0) }
      .ok (.success, set.saveConfig { set.tcConfig with crcEnable := set.crcEnable })
    else .ok answer

def processTmrMsgCmd : CmdRun :=
  withNumber state root fun valueint =>
    let set := { state with tmrMsgFlag := decide (valueint ≠ 0) }
    .ok (sendText (set.saveConfig { set.tcConfig with timerSync := set.tmrMsgFlag }) retZero)

end Handlers

section Serving

/-- One frame goes out, by the handler or for its error. -/
def Answered (state : CmdState) (result : U2artError × CmdState) : Prop :=
  result.2.frames + (errorCode result.1).toList.length = state.frames + 1

/-- The handler ends without a fault, and with one frame. -/
def Serves (state : CmdState) (run : CmdRun) : Prop :=
  ∃ result, run = .ok result ∧ Answered state result

variable {state next : CmdState} {root : CJsonItem} {run : CmdRun}

theorem frames_emit (effect : CmdEffect) :
    (state.emit effect).frames = state.frames + if effect.isFrame then 1 else 0 := by
  cases frame : effect.isFrame <;> simp [CmdState.frames, CmdState.emit, List.countP_append, frame]

theorem frames_save_config (config : TcConfig) :
    (state.saveConfig config).frames = state.frames := by
  unfold CmdState.saveConfig
  rw [frames_emit]
  rfl

theorem serves_refuse {answer : U2artError} (told : (errorCode answer).isSome = true)
    (same : next.frames = state.frames) : Serves state (refuse next answer) := by
  rcases Option.isSome_iff_exists.1 told with ⟨code, coded⟩
  refine ⟨_, rfl, ?_⟩
  unfold Answered
  rw [coded, same]
  rfl

theorem serves_send_text {text : List UInt8} (sent : text ≠ [])
    (same : next.frames = state.frames) : Serves state (.ok (sendText next text)) := by
  refine ⟨_, rfl, ?_⟩
  unfold Answered sendText
  rw [if_neg sent]
  change (next.emit (.frame (.data text))).frames + 0 = _
  rw [frames_emit, same]
  rfl

theorem serves_ite {condition : Prop} [Decidable condition] {left right : CmdRun} :
    Serves state (if condition then left else right) ↔
      (condition → Serves state left) ∧ (¬ condition → Serves state right) := by
  split
  · rename_i holds
    exact ⟨fun served => ⟨fun _ => served, fun not => absurd holds not⟩, fun both => both.1 holds⟩
  · rename_i fails
    exact ⟨fun served => ⟨fun holds => absurd holds fails, fun _ => served⟩,
      fun both => both.2 fails⟩

/-- A handler with other arguments than it takes answers so. -/
theorem serves_args_iff {number : Nat} :
    Serves state (if root.type ≠ .array ∨ cJSONGetArraySize root ≠ number then
        refuse state .invalidParams else run) ↔
      (root.type = .array → cJSONGetArraySize root = number → Serves state run) := by
  rw [serves_ite]
  constructor
  · rintro ⟨-, served⟩ array size
    exact served (by simp [array, size])
  · intro served
    refine ⟨fun _ => serves_refuse rfl rfl, fun taken => ?_⟩
    rw [not_or, not_not, not_not] at taken
    exact served taken.1 taken.2

theorem serves_without_args_iff :
    Serves state (withoutArgs state root run) ↔
      (root.type = .array → cJSONGetArraySize root = 1 → Serves state run) :=
  serves_args_iff

theorem serves_with_number {run : Int → CmdRun} (served : ∀ valueint, Serves state (run valueint)) :
    Serves state (withNumber state root run) := by
  refine serves_args_iff.2 fun _ _ => ?_
  cases cJSONGetArrayItem root 1 with
  | none => exact serves_refuse rfl rfl
  | some item => exact serves_ite.2 ⟨fun _ => serves_refuse rfl rfl, fun _ => served _⟩

theorem c_string_parts (parts : List (List UInt8)) :
    cString (parts.flatMap cString) = parts.flatMap cString := by
  apply c_string_of_nul_free
  intro member
  rcases List.mem_flatMap.1 member with ⟨part, -, inside⟩
  exact c_string_nul_free part inside

theorem strlen_parts (parts : List (List UInt8)) :
    strlen (parts.flatMap cString) = (parts.map strlen).sum := by
  rw [strlen, c_string_parts, List.length_flatMap]
  rfl

theorem serves_buffer {size : Nat} {parts : List (List UInt8)}
    (filled : 0 < (parts.map strlen).sum) (fits : (parts.map strlen).sum < size) :
    Serves state (sendBuffer state size parts) := by
  rw [← strlen_parts] at filled fits
  have copied : strcpy size (parts.flatMap cString) = .ok (parts.flatMap cString) :=
    strcpy_ok_iff.2 ⟨fits, (c_string_parts parts).symm⟩
  have sent : parts.flatMap cString ≠ [] := by
    intro empty
    rw [empty] at filled
    exact absurd filled (Nat.lt_irrefl 0)
  unfold sendBuffer
  rw [copied]
  exact serves_send_text sent rfl

theorem serves_mac_iff {size : Nat} {mac : Option (Fin 6 → UInt8)} :
    Serves state (sendMac state size mac) ↔ 10 + strlen (macText mac) < size := by
  have length : strlen ([asciiBytes "[\"ret\",\"", macText mac, asciiBytes "\"]"].flatMap cString) =
      10 + strlen (macText mac) := by
    have opening : strlen (asciiBytes "[\"ret\",\"") = 8 := by decide
    have closing : strlen (asciiBytes "\"]") = 2 := by decide
    rw [strlen_parts]
    simp only [List.map_cons, List.map_nil, List.sum_cons, List.sum_nil, opening, closing]
    omega
  have opened : ([asciiBytes "[\"ret\",\"", macText mac, asciiBytes "\"]"].flatMap cString).getD 1 0 =
      34 := by
    have front : cString (asciiBytes "[\"ret\",\"") = 91 :: 34 :: [114, 101, 116, 34, 44, 34] := by
      decide
    rw [List.flatMap_cons, front]
    rfl
  unfold sendMac
  constructor
  · rintro ⟨result, done, -⟩
    rcases bind_ok_iff.1 done with ⟨temp, copied, -⟩
    rw [← length]
    exact (strcpy_ok_iff.1 copied).1
  · intro fits
    rw [← length] at fits
    rw [strcpy_ok_iff.2 ⟨fits, (c_string_parts _).symm⟩]
    generalize [asciiBytes "[\"ret\",\"", macText mac, asciiBytes "\"]"].flatMap cString = temp at opened ⊢
    have quote : temp.getD 1 0 ≠ 0 := by
      rw [opened]
      decide
    have sent : temp ≠ [] := by
      rintro rfl
      cases opened
    change Serves state (if temp.getD 1 0 ≠ 0 then .ok (sendText state temp) else _)
    rw [if_pos quote]
    exact serves_send_text sent rfl

end Serving

section Lengths

theorem decimal_text_strlen {number width : Nat} (positive : 0 < width)
    (small : number < 10 ^ width) : strlen (decimalText number) ≤ width :=
  (strlen_le_length _).trans (decimal_text_length positive small)

theorem padded_text_length {width number bound : Nat} (within : width ≤ bound)
    (positive : 0 < bound) (small : number < 10 ^ bound) :
    (paddedText width number).length ≤ bound := by
  have digits := decimal_text_length positive small
  unfold paddedText
  rw [List.length_append, List.length_replicate]
  omega

theorem gmt_text_strlen (gmt : IoTgoGMTTime) : strlen (gmtText gmt) ≤ 26 := by
  have year : (paddedText 4 gmt.year.toNat).length ≤ 5 :=
    padded_text_length (by decide) (by decide) (gmt.year.toNat_lt.trans (by decide))
  have field : ∀ byte : UInt8, (paddedText 2 byte.toNat).length ≤ 3 := fun byte =>
    padded_text_length (by decide) (by decide) (byte.toNat_lt.trans (by decide))
  have month := field gmt.month
  have day := field gmt.day
  have hour := field gmt.hour
  have minute := field gmt.minute
  have second := field gmt.second
  refine (strlen_le_length _).trans ?_
  simp only [gmtText, List.length_append, List.length_cons, List.length_nil]
  omega

theorem int_text_strlen (number : Int8) : strlen (intText number.toInt) ≤ 4 := by
  have small : number.toInt.natAbs < 10 ^ 3 := by
    have above := number.toInt_lt
    have below := number.le_toInt
    omega
  have digits := decimal_text_length (by decide) small
  refine (strlen_le_length _).trans ?_
  unfold intText
  split
  · rw [List.length_cons]
    omega
  · omega

theorem hex_digit_ne_zero {digit : Nat} (small : digit < 16) : hexDigit digit ≠ 0 := by
  have all : ∀ digit < 16, hexDigit digit ≠ 0 := by
    decide
  exact all digit small

theorem hex_text_nul_free (byte : UInt8) : (0 : UInt8) ∉ hexText byte := by
  have high : byte.toNat / 16 < 16 := by
    have bound := byte.toNat_lt
    omega
  have low : byte.toNat % 16 < 16 := Nat.mod_lt _ (by decide)
  simp [hexText, (hex_digit_ne_zero high).symm, (hex_digit_ne_zero low).symm]

/-- A mac has 17 characters. -/
theorem mac_text_strlen (mac : Option (Fin 6 → UInt8)) :
    strlen (macText mac) = if mac.isSome then 17 else 0 := by
  cases mac with
  | none => rfl
  | some mac =>
      have nulFree : (0 : UInt8) ∉ macText (some mac) := by
        simp [macText, hex_text_nul_free]
      rw [strlen, c_string_of_nul_free nulFree]
      rfl

end Lengths

section Served

variable {world : TimerWorld} {reads : CmdReads} {state : CmdState} {root : CJsonItem}

theorem ret_zero_ne_nil : retZero ≠ [] := by
  decide

theorem send_ret_zero (state : CmdState) :
    sendText state retZero = (.success, state.emit (.frame (.data retZero))) :=
  if_neg ret_zero_ne_nil

/-- What is done after the frame tells the MCU nothing. -/
theorem serves_after {next : CmdState}
    (same : next.frames = (state.emit (.frame (.data retZero))).frames) :
    Serves state (.ok (.success, next)) := by
  refine ⟨_, rfl, ?_⟩
  unfold Answered
  rw [same, frames_emit]
  rfl

theorem serves_parts {size : Nat} {opening text closing : List UInt8}
    (filled : 0 < strlen opening)
    (fits : strlen opening + strlen text + strlen closing < size) :
    Serves state (sendBuffer state size [opening, text, closing]) := by
  apply serves_buffer
  · simp only [List.map_cons, List.sum_cons]
    omega
  · simp only [List.map_cons, List.map_nil, List.sum_cons, List.sum_nil]
    omega

theorem tick_serves : Serves state (processTickCmd state root) :=
  serves_without_args_iff.2 fun _ _ => serves_send_text (by decide) rfl

theorem baud_serves : Serves state (processBaudCmd state root) := by
  refine serves_with_number fun valueint => serves_ite.2 ⟨fun _ => serves_refuse rfl rfl, ?_⟩
  intro _
  dsimp only
  rw [send_ret_zero, if_pos rfl]
  apply serves_after
  rw [frames_emit, frames_emit, frames_emit, frames_save_config, frames_emit]
  rfl

theorem dog_serves : Serves state (processDogCmd state root) := by
  refine serves_with_number fun valueint => serves_ite.2 ⟨fun _ => serves_refuse rfl rfl, ?_⟩
  intro _
  refine serves_send_text ret_zero_ne_nil ?_
  rw [frames_save_config]
  split
  · rw [frames_emit]
    rfl
  · rw [frames_emit]
    rfl

theorem sled_serves : Serves state (processSledCmd state root) :=
  serves_with_number fun _ => serves_send_text ret_zero_ne_nil (frames_save_config _)

theorem state_info_serves : Serves state (processStateInfoCmd state root) := by
  refine serves_with_number fun valueint => serves_send_text ret_zero_ne_nil ?_
  rw [frames_save_config]
  split
  · rw [frames_emit]
    rfl
  · rw [frames_emit]
    rfl

theorem state_serves : Serves state (processStateCmd reads state root) := by
  refine serves_without_args_iff.2 fun _ _ => serves_parts (by decide) ?_
  have small : tcStateOf reads.mode < 10 ^ 1 := by
    cases reads.mode <;> decide
  have digits := decimal_text_strlen (by decide) small
  have opening : strlen (asciiBytes "[\"ret\",") = 7 := by decide
  have closing : strlen (asciiBytes "]") = 1 := by decide
  omega

theorem rssi_serves : Serves state (processRssiCmd reads state root) := by
  refine serves_ite.2 ⟨fun _ => serves_refuse rfl rfl, fun _ => ?_⟩
  refine serves_without_args_iff.2 fun _ _ => serves_parts (by decide) ?_
  have digits := int_text_strlen reads.iotgoWifiRssi
  have opening : strlen (asciiBytes "[\"ret\",") = 7 := by decide
  have closing : strlen (asciiBytes "]") = 1 := by decide
  omega

theorem time_serves : Serves state (processTimeCmd reads state root) := by
  have opening : strlen (if reads.gmtTime.year = 1970 then asciiBytes "[\"ret\",1,\""
      else asciiBytes "[\"ret\",0,\"") = 10 := by
    split
    · decide
    · decide
  refine serves_without_args_iff.2 fun _ _ => serves_parts ?_ ?_
  · rw [opening]
    decide
  · have text := gmt_text_strlen reads.gmtTime
    have closing : strlen (asciiBytes "\"]") = 2 := by decide
    omega

/-- A refused mode has an error of its own, and no mode is told by a frame. -/
theorem deal_setting_mode_parts (mode : Int) :
    (∃ answer, dealSettingMode reads mode = .error answer ∧ (errorCode answer).isSome = true) ∨
      ∃ effects, dealSettingMode reads mode = .ok effects ∧
        effects.countP CmdEffect.isFrame = 0 := by
  unfold dealSettingMode
  split
  · split
    · exact .inl ⟨_, rfl, rfl⟩
    · split
      · exact .inr ⟨_, rfl, rfl⟩
      · exact .inr ⟨_, rfl, rfl⟩
  · split
    · split
      · exact .inl ⟨_, rfl, rfl⟩
      · split
        · exact .inr ⟨_, rfl, rfl⟩
        · exact .inr ⟨_, rfl, rfl⟩
    · split
      · split
        · exact .inr ⟨_, rfl, rfl⟩
        · split
          · exact .inr ⟨_, rfl, rfl⟩
          · exact .inl ⟨_, rfl, rfl⟩
      · exact .inl ⟨_, rfl, rfl⟩

theorem setting_serves : Serves state (processSettingCmd reads state root) := by
  refine serves_with_number fun valueint => ?_
  rcases @deal_setting_mode_parts reads valueint with
    ⟨answer, refused, told⟩ | ⟨effects, done, silent⟩
  · rw [refused]
    exact serves_refuse told rfl
  · rw [done]
    refine serves_send_text ret_zero_ne_nil ?_
    change (state.log ++ effects).countP CmdEffect.isFrame = _
    rw [List.countP_append, silent]
    rfl

theorem version_serves : Serves state (processVersionCmd state root) :=
  serves_without_args_iff.2 fun _ _ => serves_buffer (by decide) (by decide)

theorem device_id_serves : Serves state (processDeviceId reads state root) := by
  refine serves_without_args_iff.2 fun _ _ => serves_parts (by decide) ?_
  have short := reads.deviceidShort
  have opening : strlen (asciiBytes "[\"ret\",\"") = 8 := by decide
  have closing : strlen (asciiBytes "\"]") = 2 := by decide
  omega

theorem stamac_serves : Serves state (processStamacCmd reads state root) := by
  refine serves_without_args_iff.2 fun _ _ => serves_mac_iff.2 ?_
  rw [mac_text_strlen]
  split
  · decide
  · decide

/-- The array takes the answer without the mac only. -/
theorem sapmac_serves_iff :
    Serves state (processSapMacCmd reads state root) ↔
      (root.type = .array → cJSONGetArraySize root = 1 → reads.sapMac = none) := by
  unfold processSapMacCmd
  rw [serves_without_args_iff, serves_mac_iff, mac_text_strlen]
  cases reads.sapMac with
  | none => simp
  | some mac => simp

/-- A request is forwarded and the MCU told, or there is an error. -/
theorem request_answers {params : CJsonType} {action : String} {board : CmdBoard}
    {flow : TcFlow} (sent : board.cmdSendDataToMcu = true) :
    let result := FlowControl.processRequest params action reads.device flow (some root) board
    result.answer = .success ∧ result.ret = true ∨
      (errorCode result.answer).isSome = true ∧ result.ret = false := by
  unfold FlowControl.processRequest
  dsimp only
  split
  · exact .inr ⟨rfl, rfl⟩
  · split
    · exact .inr ⟨rfl, rfl⟩
    · split
      · exact .inr ⟨rfl, rfl⟩
      · split
        · exact .inr ⟨rfl, rfl⟩
        · split
          · exact .inl ⟨rfl, rfl⟩
          · exact .inr ⟨rfl, rfl⟩

/-- A package is no frame. -/
theorem packages_silent (package : Option CJsonItem) (effects rets : List CmdEffect) :
    (effects ++ package.toList.map CmdEffect.package ++ rets).countP CmdEffect.isFrame =
      effects.countP CmdEffect.isFrame + rets.countP CmdEffect.isFrame := by
  rw [List.countP_append, List.countP_append]
  cases package with
  | none => rfl
  | some package => rfl

theorem forwarded_serves {result : FlowControl.RequestResult}
    (answers : result.answer = .success ∧ result.ret = true ∨
      (errorCode result.answer).isSome = true ∧ result.ret = false) :
    Serves state (forwarded state result) := by
  refine ⟨_, rfl, ?_⟩
  refine (congrArg (· + (errorCode result.answer).toList.length)
    (packages_silent result.package state.log _)).trans ?_
  rcases answers with ⟨success, told⟩ | ⟨error, silent⟩
  · rw [success, told]
    rfl
  · rcases Option.isSome_iff_exists.1 error with ⟨code, coded⟩
    rw [coded, silent]
    rfl

theorem update_serves : Serves state (processUpdateCmd reads state root) :=
  forwarded_serves (request_answers rfl)

theorem query_serves : Serves state (processQueryCmd reads state root) :=
  forwarded_serves (request_answers rfl)

theorem respond_serves : Serves state (processRespondCmd reads state root) := by
  have silent : ∀ tc : TcState,
      { state with
        tc := tc
        log := state.log ++ (respondPackages reads root).toList.map CmdEffect.package }.frames =
          state.frames := by
    intro tc
    have counted := packages_silent (respondPackages reads root) state.log []
    rwa [List.append_nil] at counted
  unfold processRespondCmd
  dsimp only
  split
  · exact serves_send_text ret_zero_ne_nil (silent _)
  · exact serves_refuse rfl (silent _)
  · exact serves_refuse rfl (silent _)
  · exact serves_refuse rfl (silent _)

/-- A handler whose answer is the frame of the timers. -/
theorem serves_bind_iff {Value : Type} {run : Checked Value} {next : Value → U2artError × CmdState}
    (answered : ∀ value, Answered state (next value)) :
    Serves state (run >>= fun value => pure (next value)) ↔ Completes run := by
  constructor
  · rintro ⟨result, done, -⟩
    rcases bind_ok_iff.1 done with ⟨value, first, -⟩
    exact ⟨value, first⟩
  · rintro ⟨value, first⟩
    exact ⟨next value, bind_ok_iff.2 ⟨value, first, rfl⟩, answered value⟩

theorem update_timers_serves_iff (invariant : TableInvariant state.timers.table)
    {cjsonTimer : CJsonItem} :
    Serves state (updateTimers world state cjsonTimer) ↔
      UpdateFits world state.timers cjsonTimer := by
  rw [← timer_proc_update_completes_iff invariant]
  refine serves_bind_iff fun done => ?_
  unfold Answered
  rw [frames_emit, frames_emit]
  rfl

theorem timer_update_with_param_serves_iff (invariant : TableInvariant state.timers.table) :
    Serves state (processTimerUpdateWithParamCmd world state root) ↔
      (root.type = .array → cJSONGetArraySize root = 2 → ∀ valuestring members act,
        cJSONGetArrayItem root 0 = some (.string valuestring) →
          cJSONGetArrayItem root 1 = some (.object members) →
            timerActOf (cString valuestring) = some act →
              UpdateFits world state.timers
                (cJSONAddStringToObject (.object members) (asciiBytes "timerAct") act)) := by
  refine serves_args_iff.trans (forall_congr' fun array => forall_congr' fun size => ?_)
  split
  · rename_i valuestring members name object
    cases act : timerActOf (cString valuestring) with
    | none =>
        refine iff_of_true (serves_refuse rfl rfl) fun valuestring' members' act' found _ named => ?_
        rw [name] at found
        cases found
        rw [act] at named
        cases named
    | some act' =>
        dsimp only
        rw [update_timers_serves_iff invariant]
        constructor
        · intro fits valuestring' members' act'' found listed named
          rw [name] at found
          rw [object] at listed
          cases found
          cases listed
          rw [act] at named
          cases named
          exact fits
        · intro fits
          exact fits valuestring members act' name object act
  · rename_i other
    refine iff_of_true (serves_refuse rfl rfl) fun valuestring members act name object => ?_
    exact absurd object (other valuestring members name)

/-- The requests for all timers have no timers and no ids. -/
theorem update_all_fits {name act : List UInt8} (named : timerActAllOf name = some act) :
    UpdateFits world state.timers
      (cJSONAddStringToObject cJSONCreateObject (asciiBytes "timerAct") act) := by
  intro cjsonTimerAct found
  cases found
  have all : cString act ∈ [asciiBytes "delAll", asciiBytes "enableAll", asciiBytes "disableAll"] := by
    unfold timerActAllOf at named
    split at named
    · cases named
      decide
    · split at named
      · cases named
        decide
      · split at named
        · cases named
          decide
        · cases named
  refine ⟨act, rfl, ?_⟩
  refine ⟨fun same => ?_, fun same => ?_, fun same => ?_, fun same => ?_, fun same => ?_⟩
  all_goals
    rw [same] at all
    exact absurd all (by decide)

theorem timer_update_serves (invariant : TableInvariant state.timers.table) :
    Serves state (processTimerUpdateCmd world reads state root) := by
  refine serves_args_iff.2 fun _ _ => ?_
  split
  · refine serves_ite.2 ⟨fun _ => serves_refuse rfl rfl, fun _ => ?_⟩
    split
    · exact serves_refuse rfl rfl
    · rename_i named
      exact (update_timers_serves_iff invariant).2 (update_all_fits named)
  · exact serves_refuse rfl rfl

theorem timer_query_serves_iff (invariant : TableInvariant state.timers.table) :
    Serves state (processTimerQueryDevCmd world state root) ↔
      (root.type = .array → cJSONGetArraySize root = 2 → ∀ items first,
        cJSONGetArrayItem root 1 = some (.array items) → items[0]? = some first →
          first.type = .string) := by
  refine serves_args_iff.trans (forall_congr' fun array => forall_congr' fun size => ?_)
  split
  · rename_i items listed
    have queried := @timer_proc_query_completes_iff world state.timers invariant (.array items)
    refine (serves_bind_iff fun reply => ?_).trans (queried.trans ?_)
    · unfold Answered
      rw [frames_emit]
      rfl
    · constructor
      · intro strings items' first found head
        rw [listed] at found
        cases found
        exact strings rfl first head
      · intro strings _ first head
        exact strings items first listed head
  · rename_i other
    refine iff_of_true (serves_refuse rfl rfl) fun items first found => ?_
    exact absurd found (other items)

theorem crc_serves : Serves state (processCrcCmd state root) := by
  refine serves_with_number fun valueint => ?_
  dsimp only
  rw [send_ret_zero, if_pos rfl]
  exact serves_after (frames_save_config _)

theorem tmr_msg_serves : Serves state (processTmrMsgCmd state root) :=
  serves_with_number fun _ => serves_send_text ret_zero_ne_nil (frames_save_config _)

/-- An answer of the MCU is not answered. -/
theorem ret_is_silent (array : root.type = .array) :
    ∃ next, processRetCmd state root = .ok (.success, next) ∧ next.frames = state.frames := by
  unfold processRetCmd TcQueue.processRetCmd
  simp only [array, decide_true]
  exact ⟨_, rfl, rfl⟩

end Served

end IotgoFirmware.Mcu.CmdHandlers
