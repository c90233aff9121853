import IotgoFirmware.Device.KeyDebounce
import IotgoFirmware.Library.ByteCodecs
import IotgoFirmware.Library.DurableStores
import IotgoFirmware.Storage.FlashParam
import IotgoFirmware.Timers.TimerArrays

/-!
# The relay and its configuration in flash

`FWSW_01.c` switches a relay for the key, for the timers and for the server, and its device
center tells the server. Every switch saves the state of the relay with the configuration, which
says what the relay is to be after a restart: off, on, or as it was. Some resets leave the pin of
the relay as it is, and then the relay stays. The device may be reset at any point, also while it
saves.
-/

namespace IotgoFirmware.Device.SwitchMemory

open IotgoFirmware.Device.KeyDebounce
open IotgoFirmware.Library.ByteCodecs
open IotgoFirmware.Library.ByteCodecs.ByteCodec
open IotgoFirmware.Library.CFaults
open IotgoFirmware.Library.CStrings
open IotgoFirmware.Library.DurableStores
open IotgoFirmware.Library.JsonDocuments
open IotgoFirmware.Library.NorFlash
open IotgoFirmware.Library.StepRuns
open IotgoFirmware.Core.PkgScan
open IotgoFirmware.Send.SendJson
open IotgoFirmware.Storage.FlashParam
open IotgoFirmware.Timers.TimeObjects
open IotgoFirmware.Timers.TimerArrays
open IotgoFirmware.Timers.TimerMonitor
open IotgoFirmware.Timers.TimerOffers (scanConsumed)

set_option autoImplicit false

section Config

/-- `ITDB04_CONFIG_STARTUP_OFF` and the others. -/
def startupOff : UInt32 := 0x0
def startupOn : UInt32 := 0x1
def startupStay : UInt32 := 0x2

structure Itdb04Config where
  startup : UInt32
  latestSwitchState : UInt32
  repowerTimes : UInt32
  reserved : UInt32
deriving DecidableEq

def configLayout : ByteCodec Itdb04Config :=
  (word.pair (word.pair (word.pair word))).named
    (fun config =>
      (config.startup, config.latestSwitchState, config.repowerTimes, config.reserved))
    (fun words => ⟨words.1, words.2.1, words.2.2.1, words.2.2.2⟩) fun _ => rfl

/-- `sizeof(itdb04_config)`. -/
def configSize : Nat := 16

def Itdb04Config.memory (config : Itdb04Config) : Memory configSize where
  bytes := configLayout.encode config
  sized := configLayout.encode_length config

theorem config_words : 4 ∣ configSize := by decide

theorem config_short : configSize ≤ sectorSize := by decide

def configStore : DurableStore Flash Itdb04Config (List UInt8) where
  load := devLoadConfigFromFlash configSize
  seen := configLayout.encode
  saved config flash := runOps (devSaveConfigToFlash config.memory flash) flash
  torn config before after := Cut (devSaveConfigToFlash config.memory before) before after
  loadSaved config := load_saved_config config_words config_short config.memory
  loadTorn config := load_torn_config config_words config_short config.memory

end Config

section Memory

inductive SwitchSignal where
  | readyed
  | update
  | updateOk
  | query
  | queryOk
  | updateByLocal
  | updateByTimer
  | updateByRemote
deriving DecidableEq

/-- What the device center sends, with what depends on the variables. -/
inductive SwitchMessage where
  | update (switchValue startupValue : List UInt8)
  | query
  | error0 (sequence : List UInt8)
deriving DecidableEq

/-- The variables of the program; `switchState` is set where it is `SWITCH_ON`, `posted` is the
queue of the device center, and `corePosts` has what the key posts elsewhere. -/
structure SwitchRam where
  config : Itdb04Config
  switchState : Bool
  startupValue : List UInt8
  serverSequenceValue : List UInt8
  timers : TimeObjectList
  monitoring : Bool
  key : KeyState
  firstUpdated : Bool
  posted : List SwitchSignal
  corePosts : List KeyEffect
  sent : List SwitchMessage

abbrev SwitchAction := Action Bool Itdb04Config

/-- `GPIO_HIGH` and `GPIO_LOW`. -/
def gpioLevel (on : Bool) : UInt32 := if on then 1 else 0

def invalidSequence : List UInt8 := asciiBytes "Invalid sequence"

/-- The variables before the program runs. -/
def SwitchRam.start : SwitchRam where
  config := ⟨0, 0, 0, 0⟩
  switchState := false
  startupValue := asciiBytes "off"
  serverSequenceValue := invalidSequence
  timers := noTimeObjects
  monitoring := false
  key := startUp
  firstUpdated := true
  posted := []
  corePosts := []
  sent := []

/-- `IOTGO_TASK_DEVICE_CENTER_QLEN`. -/
def deviceCenterQlen : Nat := 64

variable (ram : SwitchRam)

/-- A full queue takes nothing. -/
def systemOsPost (signal : SwitchSignal) : SwitchRam :=
  if ram.posted.length < deviceCenterQlen then { ram with posted := ram.posted ++ [signal] }
  else ram

def stopTimerMonitor : SwitchRam :=
  { ram with timers := deleteAllTimeObject ram.timers, monitoring := false }

def Itdb04Config.switched (config : Itdb04Config) (on : Bool) : Itdb04Config :=
  { config with latestSwitchState := gpioLevel on }

def switchTo (on : Bool) : SwitchRam × List SwitchAction :=
  ({ ram with switchState := on, config := ram.config.switched on },
    [.output on, .save (ram.config.switched on)])

def switchON : SwitchRam × List SwitchAction := switchTo ram true

def switchOFF : SwitchRam × List SwitchAction := switchTo ram false

/-- The action of a timer, with the text it was given. -/
def switchActionCallback : Option (List UInt8) → SwitchRam × List SwitchAction
  | none => (ram, [])
  | some switchVal =>
      let (ram, actions) :=
        if switchVal = asciiBytes "on" then switchON ram
        else if switchVal = asciiBytes "off" then switchOFF ram
        else (ram, [])
      (systemOsPost ram .updateByTimer, actions)

def performEffect : KeyEffect → SwitchRam × List SwitchAction
  | .switchON => switchON ram
  | .switchOFF => switchOFF ram
  | .updateByLocal => (systemOsPost ram .updateByLocal, [])
  | effect => ({ ram with corePosts := ram.corePosts ++ [effect] }, [])

def performEffects : SwitchRam → List KeyEffect → SwitchRam × List SwitchAction
  | ram, [] => (ram, [])
  | ram, effect :: rest =>
      let (next, first) := performEffect ram effect
      let (last, later) := performEffects next rest
      (last, first ++ later)

def keyEffects : KeyAction → List KeyEffect
  | .longPress effects => effects
  | .shortPress effects => effects

/-- One sample of the key, which sees the relay as the program knows it. -/
def keySampled (released : Bool) (mode : IoTgoDeviceMode) : SwitchRam × List SwitchAction :=
  let (key, taken) := keyISRStage2 fwsw01Keys ram.key ⟨released, mode, ram.switchState⟩
  performEffects { ram with key := key } (taken.flatMap keyEffects)

def switchText (on : Bool) : List UInt8 :=
  if on then asciiBytes "on" else asciiBytes "off"

def switchUpdateWithVersion : SwitchRam :=
  { ram with sent := ram.sent ++ [.update (switchText ram.switchState) ram.startupValue] }

def switchDevicePostCenter : SwitchSignal → SwitchRam
  | .readyed => { systemOsPost (stopTimerMonitor ram) .update with firstUpdated := true }
  | .update => switchUpdateWithVersion ram
  | .updateOk =>
      if ram.firstUpdated then systemOsPost { ram with firstUpdated := false } .query else ram
  | .query => { ram with sent := ram.sent ++ [.query] }
  | .queryOk => ram
  | .updateByLocal => switchUpdateWithVersion ram
  | .updateByTimer => switchUpdateWithVersion ram
  | .updateByRemote => { ram with sent := ram.sent ++ [.error0 ram.serverSequenceValue] }

/-- The task of the device center, with the next signal of its queue. -/
def deviceCenter : SwitchRam :=
  match ram.posted with
  | [] => ram
  | signal :: rest => switchDevicePostCenter { ram with posted := rest } signal

end Memory

section Requests

variable (sites : Nat → Nat → CallSite)

/-- The elements that the loop over the array of timers consumes. -/
def arrayConsumed (sites : Nat → CallSite) : Nat → Nat → TimeObjectList → List JsonToken → Nat
  | _, _, _, [] => 0
  | calls, skip + 1, list, _ :: rest => arrayConsumed sites calls skip list rest + 1
  | _, 0, _, .arrayEnd :: _ => 1
  | _, 0, _, .failed :: _ => 1
  | calls, 0, list, .object :: rest =>
      match procOneTimer (sites calls).around list rest with
      | .ok (next, result) =>
          if result.getD (sites calls).unreturned then
            arrayConsumed sites (calls + 1) (scanConsumed .timer 0 .initial rest) next rest + 1
          else scanConsumed .timer 0 .initial rest + 1
      | .error _ => 0
  | calls, 0, list, _ :: rest => arrayConsumed sites calls 0 list rest + 1

/-- The elements that `jsonIoTgoProcTimers` consumes. -/
def timersConsumed (sites : Nat → CallSite) (list : TimeObjectList) : List JsonToken → Nat
  | .pair :: .array :: rest => arrayConsumed sites 0 0 (deleteAllTimeObject list) rest + 2
  | _ => 2

/-- `jsonIoTgoProcTimers` has called `stopTimerMonitor`. -/
def timersStopped : List JsonToken → Bool
  | .pair :: .array :: _ => true
  | .pair :: .number _ :: _ => true
  | _ => false

/-- The loop that runs: the one over the message, or the one over `params`. -/
inductive UpdateLoop where
  | message
  | params
deriving DecidableEq

/-- The local variables of `switchReqUpdateCallback`; a field is set where its flag is, and
`timers` has what the last call of `jsonIoTgoProcTimers` returned. -/
structure UpdateFields where
  serverSequence : Option (List UInt8)
  params : Bool
  paramSwitch : Option (List UInt8)
  timers : Option Bool
  paramStartup : Option (List UInt8)
  stopped : Bool
deriving DecidableEq

def UpdateFields.initial : UpdateFields := ⟨none, false, none, none, none, false⟩

/-- A name of the message; `none` where the loop ends. -/
def readMessage (fields : UpdateFields) (name : List UInt8) (rest : List JsonToken) :
    Option (UpdateLoop × Nat × UpdateFields) :=
  if fields.serverSequence = none ∧ Matches name (asciiBytes "sequence") then
    (jsonIoTgoGetString rest 30).map fun text =>
      (.message, 2, { fields with serverSequence := some text })
  else if fields.params = false ∧ Matches name (asciiBytes "params") then
    match rest with
    | .pair :: .object :: _ => some (.params, 2, { fields with params := true })
    | _ => none
  else some (.message, 0, fields)

/-- A text of `params`; another value ends the loop over `params`. -/
def readParam (fields : UpdateFields) (set : List UInt8 → UpdateFields) (rest : List JsonToken) :
    UpdateLoop × Nat × UpdateFields :=
  match jsonIoTgoGetString rest 10 with
  | some text => (.params, 2, set text)
  | none => (.message, 2, fields)

/-- The loops of `switchReqUpdateCallback` behind some calls of `jsonIoTgoProcTimers`; `skip`
elements are consumed already. -/
def scanUpdate : UpdateLoop → Nat → Nat → UpdateFields → TimeObjectList → List JsonToken →
    Checked (UpdateFields × TimeObjectList)
  | _, _, _, fields, list, [] => .ok (fields, list)
  | loop, skip + 1, calls, fields, list, _ :: rest => scanUpdate loop skip calls fields list rest
  | .message, 0, calls, fields, list, .pairName name :: rest =>
      match readMessage fields name rest with
      | some (loop, skip, next) => scanUpdate loop skip calls next list rest
      | none => .ok (fields, list)
  | .params, 0, calls, fields, list, .pairName name :: rest =>
      if Matches name (asciiBytes "switch") then
        let (loop, skip, next) :=
          readParam fields (fun text => { fields with paramSwitch := some text }) rest
        scanUpdate loop skip calls next list rest
      else if Matches name (asciiBytes "timers") then do
        let (next, result) ← jsonIoTgoProcTimers (sites calls) list rest
        let fields := { fields with
          timers := some result, stopped := fields.stopped || timersStopped rest }
        scanUpdate (if result then .params else .message)
          (timersConsumed (sites calls) list rest) (calls + 1) fields next rest
      else if Matches name (asciiBytes "startup") then
        let (loop, skip, next) :=
          readParam fields (fun text => { fields with paramStartup := some text }) rest
        scanUpdate loop skip calls next list rest
      else scanUpdate .params 0 calls fields list rest
  | .params, 0, calls, fields, list, .objectEnd :: rest =>
      scanUpdate .message 0 calls fields list rest
  | .params, 0, calls, fields, list, .failed :: rest =>
      scanUpdate .message 0 calls fields list rest
  | .message, 0, _, fields, list, .failed :: _ => .ok (fields, list)
  | loop, 0, calls, fields, list, _ :: rest => scanUpdate loop 0 calls fields list rest

variable (ram : SwitchRam)

def switchParam : Option (List UInt8) → SwitchRam × List SwitchAction
  | none => (ram, [])
  | some paramSwitch =>
      if paramSwitch = asciiBytes "on" then switchON ram else switchOFF ram

def setStartup (startup : UInt32) (text : List UInt8) : SwitchRam × List SwitchAction :=
  let config := { ram.config with startup := startup }
  ({ ram with config := config, startupValue := text }, [.save config])

def startupParam : Option (List UInt8) → SwitchRam × List SwitchAction
  | none => (ram, [])
  | some paramStartup =>
      if paramStartup = asciiBytes "on" then setStartup ram startupOn (asciiBytes "on")
      else if paramStartup = asciiBytes "off" then setStartup ram startupOff (asciiBytes "off")
      else if paramStartup = asciiBytes "stay" then
        setStartup ram startupStay (asciiBytes "stay")
      else (ram, [])

/-- Behind the loops: the relay, the timers, the configuration and the sequence. -/
def applyUpdate (fields : UpdateFields) (timers : TimeObjectList) :
    SwitchRam × List SwitchAction :=
  let ram := { ram with timers := timers, monitoring := ram.monitoring && !fields.stopped }
  if fields.params then
    let (switched, first) := switchParam ram fields.paramSwitch
    let monitored :=
      { switched with monitoring := switched.monitoring || decide (fields.timers = some true) }
    let (started, second) := startupParam monitored fields.paramStartup
    let sequence := fields.serverSequence.getD invalidSequence
    (systemOsPost { started with serverSequenceValue := sequence } .updateByRemote, first ++ second)
  else (ram, [])

def switchReqUpdateCallback (tokens : List JsonToken) :
    Checked (SwitchRam × List SwitchAction) := do
  let (fields, timers) ← scanUpdate sites .message 0 0 .initial ram.timers tokens
  return applyUpdate ram fields timers

/-- The local variables of `switchRespQueryCallback`. -/
structure QueryFields where
  params : Bool
  ret : Bool
  stopped : Bool

/-- The loop of `switchRespQueryCallback`. -/
def scanQuery (site : Nat → CallSite) : Nat → QueryFields → TimeObjectList → List JsonToken →
    Checked (QueryFields × TimeObjectList)
  | _, fields, list, [] => .ok (fields, list)
  | skip + 1, fields, list, _ :: rest => scanQuery site skip fields list rest
  | 0, fields, list, .pairName name :: rest =>
      if fields.params = false ∧ Matches name (asciiBytes "params") then
        match rest with
        | .pair :: .object :: _ => scanQuery site 2 { fields with params := true } list rest
        | .pair :: .number _ :: _ => .ok (⟨true, true, true⟩, deleteAllTimeObject list)
        | _ => .ok (fields, list)
      else if fields.params = true ∧ Matches name (asciiBytes "timers") then do
        let (next, ret) ← jsonIoTgoProcTimers site list rest
        return ({ fields with ret := ret, stopped := timersStopped rest }, next)
      else scanQuery site 0 fields list rest
  | 0, fields, list, .failed :: _ => .ok (fields, list)
  | 0, fields, list, _ :: rest => scanQuery site 0 fields list rest

def switchRespQueryCallback (site : Nat → CallSite) (tokens : List JsonToken) :
    Checked SwitchRam := do
  let (fields, timers) ← scanQuery site 0 ⟨false, false, false⟩ ram.timers tokens
  let ram := { ram with timers := timers, monitoring := ram.monitoring && !fields.stopped }
  if fields.params && fields.ret then
    return systemOsPost { ram with monitoring := true } .queryOk
  else return ram

def switchRespUpdateCallback : SwitchRam :=
  systemOsPost ram .updateOk

end Requests

section Boots

inductive ResetReason where
  | default
  | wdt
  | exception
  | softWdt
  | softRestart
  | deepSleepAwake
  | extSys
deriving DecidableEq

/-- The reset has left the pins as they were. -/
def iotgoIsXrstKeepGpio (reason : ResetReason) : Bool :=
  reason = .softRestart || reason = .softWdt || reason = .exception

variable (ram : SwitchRam)

def setStartupParam (startupVal : String) (done : SwitchRam × List SwitchAction) :
    SwitchRam × List SwitchAction :=
  ({ done.1 with startupValue := asciiBytes startupVal }, done.2)

/-- A start with the pins as the hardware sets them. -/
def coldStart : SwitchRam × List SwitchAction :=
  if ram.config.startup = startupOff then setStartupParam "off" (switchOFF ram)
  else if ram.config.startup = startupOn then setStartupParam "on" (switchON ram)
  else if ram.config.startup = startupStay then
    setStartupParam "stay"
      (if ram.config.latestSwitchState = gpioLevel true then switchON ram else switchOFF ram)
  else setStartupParam "off" (switchOFF ram)

/-- A start with the pin of the relay as it was. -/
def warmStart (output : Bool) : SwitchRam × List SwitchAction :=
  let done := if output = true then switchON ram else switchOFF ram
  if ram.config.startup = startupOn then setStartupParam "on" done
  else if ram.config.startup = startupStay then setStartupParam "stay" done
  else setStartupParam "off" done

def switchInitIoTgoDevice (reason : ResetReason) (output : Bool) (config : List UInt8) :
    SwitchRam × List SwitchAction :=
  let ram := { SwitchRam.start with config := configLayout.decode config }
  if ¬ iotgoIsXrstKeepGpio reason then coldStart ram else warmStart ram output

end Boots

section Device

/-- `ram` is there while the program runs; `reason` is that of the last reset. -/
structure SwitchDevice where
  ram : Option SwitchRam
  hardware : Hardware Bool Flash
  reason : ResetReason

/-- What the program may be at when it runs. -/
inductive SwitchWork where
  | timer (switchVal : Option (List UInt8))
  | keyInterrupt (raised : Bool)
  | keySample (released : Bool) (mode : IoTgoDeviceMode)
  | update (sites : Nat → Nat → CallSite) (tokens : List JsonToken)
  | query (site : Nat → CallSite) (tokens : List JsonToken)
  | updated
  | readyed
  | center

def SwitchWork.run (ram : SwitchRam) : SwitchWork → Checked (SwitchRam × List SwitchAction)
  | .timer switchVal => .ok (switchActionCallback ram switchVal)
  | .keyInterrupt raised => .ok ({ ram with key := keyISR ram.key raised }, [])
  | .keySample released mode => .ok (keySampled ram released mode)
  | .update sites tokens => switchReqUpdateCallback sites ram tokens
  | .query site tokens => (switchRespQueryCallback ram site tokens).map fun after => (after, [])
  | .updated => .ok (switchRespUpdateCallback ram, [])
  | .readyed => .ok (systemOsPost ram .readyed, [])
  | .center => .ok (deviceCenter ram, [])

/-- A reset comes behind a work, in the middle of one, or in the middle of the start. -/
inductive SwitchEvent where
  | work (work : SwitchWork)
  | cut (work : SwitchWork) (reason : ResetReason)
  | reset (reason : ResetReason)
  | boot
  | bootCut (reason : ResetReason)

/-- A reset that does not keep the pin of the relay leaves it at any level. -/
def restarted (reason : ResetReason) (level : Bool) (hardware : Hardware Bool Flash) :
    SwitchDevice where
  ram := none
  hardware := if iotgoIsXrstKeepGpio reason then hardware else { hardware with output := level }
  reason := reason

def bootOf (device : SwitchDevice) : SwitchRam × List SwitchAction :=
  switchInitIoTgoDevice device.reason device.hardware.output
    (devLoadConfigFromFlash configSize device.hardware.chip)

/-- The program runs, and has done what it was to do. -/
def ranTo (device : SwitchDevice) (done : SwitchRam × List SwitchAction) : SwitchDevice :=
  { device with
    ram := some done.1, hardware := configStore.actionsDone done.2 device.hardware }

def SwitchStep (device : SwitchDevice) (event : SwitchEvent) (next : SwitchDevice) : Prop :=
  match event with
  | .work work => ∃ ram done, device.ram = some ram ∧ work.run ram = .ok done ∧
      next = ranTo device done
  | .cut work reason => ∃ ram done left level, device.ram = some ram ∧ work.run ram = .ok done ∧
      configStore.Stopped done.2 device.hardware left ∧ next = restarted reason level left
  | .reset reason => ∃ ram level, device.ram = some ram ∧
      next = restarted reason level device.hardware
  | .boot => device.ram = none ∧ next = ranTo device (bootOf device)
  | .bootCut reason => device.ram = none ∧ ∃ left level,
      configStore.Stopped (bootOf device).2 device.hardware left ∧
      next = restarted reason level left

end Device

end IotgoFirmware.Device.SwitchMemory
