import IotgoFirmware.Device.SwitchMemory

/-!
# The relay over restarts

While the program runs, the pin of the relay, the variable, the configuration and what is in the
flash say the same, whatever the flash held at first and wherever the device was reset. So the
relay is after a loss of power what the configuration in flash says, and if that is to stay, what
it was before.
-/

namespace IotgoFirmware.Device.SwitchRestarts

open IotgoFirmware.Device.KeyDebounce
open IotgoFirmware.Device.SwitchMemory
open IotgoFirmware.Library.ByteCodecs.ByteCodec
open IotgoFirmware.Library.CFaults
open IotgoFirmware.Library.CStrings
open IotgoFirmware.Library.DurableStores
open IotgoFirmware.Library.DurableStores.DurableStore
open IotgoFirmware.Library.JsonDocuments
open IotgoFirmware.Library.NorFlash
open IotgoFirmware.Library.StepRuns
open IotgoFirmware.Send.SendJson (IoTgoDeviceMode)
open IotgoFirmware.Storage.FlashParam
open IotgoFirmware.Timers.TimeObjects
open IotgoFirmware.Timers.TimerArrays

set_option autoImplicit false

/-- The text that is reported for a setting. -/
def startupText (startup : UInt32) : List UInt8 :=
  if startup = startupOn then asciiBytes "on"
  else if startup = startupStay then asciiBytes "stay"
  else asciiBytes "off"

/-- The pin, the variables and the configuration in flash agree. -/
structure Agrees (ram : SwitchRam) (seen : Hardware Bool (List UInt8)) : Prop where
  output : seen.output = ram.switchState
  flash : seen.chip = configLayout.encode ram.config
  latest : ram.config.latestSwitchState = gpioLevel ram.switchState
  startup : ram.startupValue = startupText ram.config.startup

/-- The actions as they act on what is seen. -/
def seenAfter (actions : List SwitchAction) (seen : Hardware Bool (List UInt8)) :
    Hardware Bool (List UInt8) :=
  (register configLayout.encode).actionsDone actions seen

def Keeps (ram : SwitchRam) (done : SwitchRam × List SwitchAction) : Prop :=
  ∀ seen, Agrees ram seen → Agrees done.1 (seenAfter done.2 seen)

/-- Nothing of the relay and its configuration has changed. -/
structure SameRelay (ram after : SwitchRam) : Prop where
  config : after.config = ram.config
  switchState : after.switchState = ram.switchState
  startupValue : after.startupValue = ram.startupValue

section Works

variable {ram after : SwitchRam}

theorem same_agrees (same : SameRelay ram after) {seen : Hardware Bool (List UInt8)}
    (agrees : Agrees ram seen) : Agrees after seen := by
  obtain ⟨config, switchState, startupValue⟩ := same
  exact ⟨agrees.output.trans switchState.symm, by rw [config]; exact agrees.flash,
    by rw [config, switchState]; exact agrees.latest,
    by rw [config, startupValue]; exact agrees.startup⟩

theorem keeps_same (same : SameRelay ram after) : Keeps ram (after, []) :=
  fun _ agrees => same_agrees same agrees

theorem seen_after_append (first second : List SwitchAction)
    (seen : Hardware Bool (List UInt8)) :
    seenAfter (first ++ second) seen = seenAfter second (seenAfter first seen) :=
  List.foldl_append

theorem keeps_then {first : SwitchRam × List SwitchAction} {last : SwitchRam}
    {second : List SwitchAction} (kept : Keeps ram first) (later : Keeps first.1 (last, second)) :
    Keeps ram (last, first.2 ++ second) := by
  intro seen agrees
  have both := later _ (kept seen agrees)
  rw [← seen_after_append] at both
  exact both

theorem keeps_from {next : SwitchRam} {done : SwitchRam × List SwitchAction}
    (same : SameRelay ram next) (kept : Keeps next done) : Keeps ram done :=
  fun seen agrees => kept seen (same_agrees same agrees)

theorem keeps_into {done : SwitchRam × List SwitchAction} (kept : Keeps ram done)
    (same : SameRelay done.1 after) : Keeps ram (after, done.2) :=
  fun seen agrees => same_agrees same (kept seen agrees)

theorem same_refl (ram : SwitchRam) : SameRelay ram ram := ⟨rfl, rfl, rfl⟩

/-- Of what was before, only the text of the setting is needed. -/
theorem switch_agrees (ram : SwitchRam) (on : Bool)
    (startup : ram.startupValue = startupText ram.config.startup)
    (seen : Hardware Bool (List UInt8)) :
    Agrees (switchTo ram on).1 (seenAfter (switchTo ram on).2 seen) :=
  ⟨rfl, rfl, rfl, startup⟩

theorem keeps_switch (ram : SwitchRam) (on : Bool) : Keeps ram (switchTo ram on) :=
  fun seen agrees => switch_agrees ram on agrees.startup seen

theorem same_post (ram : SwitchRam) (signal : SwitchSignal) :
    SameRelay ram (systemOsPost ram signal) := by
  unfold systemOsPost
  split
  · exact ⟨rfl, rfl, rfl⟩
  · exact same_refl ram

theorem same_trans {middle : SwitchRam} (first : SameRelay ram middle)
    (second : SameRelay middle after) : SameRelay ram after :=
  ⟨second.config.trans first.config, second.switchState.trans first.switchState,
    second.startupValue.trans first.startupValue⟩

theorem same_posted {middle : SwitchRam} (same : SameRelay ram middle) (signal : SwitchSignal) :
    SameRelay ram (systemOsPost middle signal) :=
  same_trans same (same_post middle signal)

theorem keeps_timer (ram : SwitchRam) (switchVal : Option (List UInt8)) :
    Keeps ram (switchActionCallback ram switchVal) := by
  cases switchVal with
  | none => exact keeps_same (same_refl ram)
  | some switchVal =>
      unfold switchActionCallback
      dsimp only
      split
      · exact keeps_into (keeps_switch ram true) (same_post _ _)
      · split
        · exact keeps_into (keeps_switch ram false) (same_post _ _)
        · exact keeps_same (same_post _ _)

theorem keeps_effect (ram : SwitchRam) (effect : KeyEffect) :
    Keeps ram (performEffect ram effect) := by
  cases effect with
  | switchON => exact keeps_switch ram true
  | switchOFF => exact keeps_switch ram false
  | updateByLocal => exact keeps_same (same_post _ _)
  | enterSettingMode => exact keeps_same ⟨rfl, rfl, rfl⟩
  | exitSettingMode => exact keeps_same ⟨rfl, rfl, rfl⟩
  | enterSettingSelfapMode => exact keeps_same ⟨rfl, rfl, rfl⟩
  | exitSettingSelfapMode => exact keeps_same ⟨rfl, rfl, rfl⟩
  | selfapTimer milliseconds => exact keeps_same ⟨rfl, rfl, rfl⟩

theorem keeps_effects (ram : SwitchRam) (effects : List KeyEffect) :
    Keeps ram (performEffects ram effects) := by
  induction effects generalizing ram with
  | nil => exact keeps_same (same_refl ram)
  | cons effect rest ih => exact keeps_then (keeps_effect ram effect) (ih _)

theorem keeps_sample (ram : SwitchRam) (released : Bool) (mode : IoTgoDeviceMode) :
    Keeps ram (keySampled ram released mode) := by
  have same : SameRelay ram { ram with
      key := (keyISRStage2 fwsw01Keys ram.key ⟨released, mode, ram.switchState⟩).1 } :=
    ⟨rfl, rfl, rfl⟩
  exact keeps_from same (keeps_effects _ _)

theorem keeps_switch_param (ram : SwitchRam) (paramSwitch : Option (List UInt8)) :
    Keeps ram (switchParam ram paramSwitch) := by
  cases paramSwitch with
  | none => exact keeps_same (same_refl ram)
  | some text =>
      unfold switchParam
      dsimp only
      split
      · exact keeps_switch ram true
      · exact keeps_switch ram false

theorem keeps_startup {startup : UInt32} {text : List UInt8} (ram : SwitchRam)
    (said : text = startupText startup) : Keeps ram (setStartup ram startup text) :=
  fun _ agrees => ⟨agrees.output, rfl, agrees.latest, said⟩

theorem keeps_startup_param (ram : SwitchRam) (paramStartup : Option (List UInt8)) :
    Keeps ram (startupParam ram paramStartup) := by
  cases paramStartup with
  | none => exact keeps_same (same_refl ram)
  | some text =>
      unfold startupParam
      dsimp only
      split
      · exact keeps_startup ram rfl
      · split
        · exact keeps_startup ram rfl
        · split
          · exact keeps_startup ram rfl
          · exact keeps_same (same_refl ram)

theorem keeps_update (ram : SwitchRam) (fields : UpdateFields) (timers : TimeObjectList) :
    Keeps ram (applyUpdate ram fields timers) := by
  have begun : SameRelay ram
      { ram with timers := timers, monitoring := ram.monitoring && !fields.stopped } :=
    ⟨rfl, rfl, rfl⟩
  unfold applyUpdate
  dsimp only
  split
  · refine keeps_from begun (keeps_then (keeps_switch_param _ fields.paramSwitch) ?_)
    refine keeps_from ?_ (keeps_into (keeps_startup_param _ fields.paramStartup) ?_)
    · exact ⟨rfl, rfl, rfl⟩
    · refine same_posted ?_ _
      exact ⟨rfl, rfl, rfl⟩
  · exact keeps_same begun

theorem same_query {site : Nat → CallSite} {tokens : List JsonToken}
    (ran : switchRespQueryCallback ram site tokens = .ok after) : SameRelay ram after := by
  unfold switchRespQueryCallback at ran
  obtain ⟨⟨fields, timers⟩, -, left⟩ := bind_ok_iff.1 ran
  dsimp only at left
  split at left
  · cases left
    refine same_posted ?_ _
    exact ⟨rfl, rfl, rfl⟩
  · cases left
    exact ⟨rfl, rfl, rfl⟩

theorem same_center (ram : SwitchRam) : SameRelay ram (deviceCenter ram) := by
  unfold deviceCenter
  split
  · exact same_refl ram
  · rename_i signal rest queued
    cases signal with
    | readyed =>
        have posted := same_post (stopTimerMonitor { ram with posted := rest }) .update
        exact ⟨posted.config, posted.switchState, posted.startupValue⟩
    | updateOk =>
        unfold switchDevicePostCenter
        dsimp only
        split
        · refine same_posted ?_ _
          exact ⟨rfl, rfl, rfl⟩
        · exact ⟨rfl, rfl, rfl⟩
    | update => exact ⟨rfl, rfl, rfl⟩
    | query => exact ⟨rfl, rfl, rfl⟩
    | queryOk => exact ⟨rfl, rfl, rfl⟩
    | updateByLocal => exact ⟨rfl, rfl, rfl⟩
    | updateByTimer => exact ⟨rfl, rfl, rfl⟩
    | updateByRemote => exact ⟨rfl, rfl, rfl⟩

/-- Whatever the program does, it keeps the agreement. -/
theorem keeps_work {work : SwitchWork} {done : SwitchRam × List SwitchAction}
    (ran : work.run ram = .ok done) : Keeps ram done := by
  cases work with
  | timer switchVal => exact Except.ok.inj ran ▸ keeps_timer ram switchVal
  | keyInterrupt raised =>
      cases ran
      exact keeps_same ⟨rfl, rfl, rfl⟩
  | keySample released mode => exact Except.ok.inj ran ▸ keeps_sample ram released mode
  | update sites tokens =>
      unfold SwitchWork.run switchReqUpdateCallback at ran
      obtain ⟨⟨fields, timers⟩, -, left⟩ := bind_ok_iff.1 ran
      exact Except.ok.inj left ▸ keeps_update ram fields timers
  | query site tokens =>
      simp only [SwitchWork.run] at ran
      cases done : switchRespQueryCallback ram site tokens with
      | error fault =>
          rw [done] at ran
          cases ran
      | ok result =>
          rw [done] at ran
          cases ran
          exact keeps_same (same_query done)
  | updated =>
      cases ran
      exact keeps_same (same_post ram _)
  | readyed =>
      cases ran
      exact keeps_same (same_post ram _)
  | center =>
      cases ran
      exact keeps_same (same_center ram)

end Works

section Agreement

variable {device next : SwitchDevice} {event : SwitchEvent}

/-- What the relay is after a start with the pins as the hardware sets them. -/
def startLevel (config : Itdb04Config) : Bool :=
  if config.startup = startupOn then true
  else if config.startup = startupStay then decide (config.latestSwitchState = gpioLevel true)
  else false

def bootLevel (reason : ResetReason) (output : Bool) (config : Itdb04Config) : Bool :=
  if iotgoIsXrstKeepGpio reason then output else startLevel config

def bootConfig (device : SwitchDevice) : Itdb04Config :=
  configLayout.decode (devLoadConfigFromFlash configSize device.hardware.chip)

def levelOf (device : SwitchDevice) : Bool :=
  bootLevel device.reason device.hardware.output (bootConfig device)

theorem cold_start (ram : SwitchRam) :
    coldStart ram = ({ (switchTo ram (startLevel ram.config)).1 with
      startupValue := startupText ram.config.startup },
        (switchTo ram (startLevel ram.config)).2) := by
  unfold coldStart startLevel startupText
  by_cases off : ram.config.startup = startupOff
  · rw [if_pos off, off]
    rfl
  · rw [if_neg off]
    by_cases on : ram.config.startup = startupOn
    · rw [if_pos on, if_pos on, if_pos on]
      rfl
    · rw [if_neg on, if_neg on, if_neg on]
      by_cases stay : ram.config.startup = startupStay
      · rw [if_pos stay, if_pos stay, if_pos stay]
        by_cases latest : ram.config.latestSwitchState = gpioLevel true
        · rw [if_pos latest, decide_eq_true latest]
          rfl
        · rw [if_neg latest, decide_eq_false latest]
          rfl
      · rw [if_neg stay, if_neg stay, if_neg stay]
        rfl

theorem warm_start (ram : SwitchRam) (output : Bool) :
    warmStart ram output = ({ (switchTo ram output).1 with
      startupValue := startupText ram.config.startup }, (switchTo ram output).2) := by
  have switched : (if output = true then switchON ram else switchOFF ram) =
      switchTo ram output := by
    cases output <;> rfl
  unfold warmStart startupText
  rw [switched]
  dsimp only
  split
  · rfl
  · split
    · rfl
    · rfl

/-- A start switches the relay, whatever the flash holds. -/
theorem boot_of (device : SwitchDevice) :
    bootOf device =
      ({ (switchTo { SwitchRam.start with config := bootConfig device } (levelOf device)).1 with
        startupValue := startupText (bootConfig device).startup },
        (switchTo { SwitchRam.start with config := bootConfig device } (levelOf device)).2) := by
  unfold bootOf switchInitIoTgoDevice levelOf bootLevel
  dsimp only
  by_cases keeps : iotgoIsXrstKeepGpio device.reason = true
  · rw [if_neg (not_not.2 keeps), if_pos keeps]
    exact warm_start _ _
  · rw [if_pos keeps, if_neg keeps]
    exact cold_start _

theorem view_after (actions : List SwitchAction) (hardware : Hardware Bool Flash) :
    configStore.view (configStore.actionsDone actions hardware) =
      seenAfter actions (configStore.view hardware) :=
  view_actions actions hardware

theorem boot_agrees (device : SwitchDevice) (seen : Hardware Bool (List UInt8)) :
    Agrees (bootOf device).1 (seenAfter (bootOf device).2 seen) := by
  rw [boot_of]
  exact ⟨rfl, rfl, rfl, rfl⟩

/-- The agreement, while the program runs. -/
def Running (device : SwitchDevice) : Prop :=
  ∀ ram, device.ram = some ram → Agrees ram (configStore.view device.hardware)

theorem ran_to_running {done : SwitchRam × List SwitchAction}
    (agrees : Agrees done.1 (seenAfter done.2 (configStore.view device.hardware))) :
    Running (ranTo device done) := by
  intro ram same
  cases same
  rw [← view_after] at agrees
  exact agrees

theorem restarted_running (reason : ResetReason) (level : Bool) (hardware : Hardware Bool Flash) :
    Running (restarted reason level hardware) := by
  intro ram up
  cases up

theorem step_running (running : Running device) (step : SwitchStep device event next) :
    Running next := by
  cases event with
  | work work =>
      obtain ⟨ram, done, up, ran, rfl⟩ := step
      exact ran_to_running (keeps_work ran _ (running ram up))
  | cut work reason =>
      obtain ⟨ram, done, left, level, -, -, -, rfl⟩ := step
      exact restarted_running reason level left
  | reset reason =>
      obtain ⟨ram, level, -, rfl⟩ := step
      exact restarted_running reason level _
  | boot =>
      obtain ⟨-, rfl⟩ := step
      exact ran_to_running (boot_agrees device _)
  | bootCut reason =>
      obtain ⟨-, left, level, -, rfl⟩ := step
      exact restarted_running reason level left

theorem run_running {start final : SwitchDevice} {events : List SwitchEvent}
    (off : start.ram = none) (run : Run SwitchStep start events final) : Running final := by
  have running : Running start := by
    intro ram up
    cases off.symm.trans up
  exact run_keeps Running (fun _ _ _ => step_running) running run

/-- From a device that is off, with anything in its flash: whenever the program runs, the pin of
the relay, the variable, the configuration, what is in the flash and the setting that is reported
agree. -/
theorem relay_agrees {start final : SwitchDevice} {events : List SwitchEvent}
    (off : start.ram = none) (run : Run SwitchStep start events final) {ram : SwitchRam}
    (up : final.ram = some ram) : Agrees ram (configStore.view final.hardware) :=
  run_running off run ram up

/-- A device that has lost the power, with a configuration in an otherwise erased flash. -/
def storedDevice (config : Itdb04Config) : SwitchDevice where
  ram := none
  hardware :=
    ⟨true, runOps (devSaveConfigToFlash config.memory fun _ => 0xFF) fun _ => 0xFF⟩
  reason := .default

def bootedDevice (config : Itdb04Config) : SwitchDevice :=
  ranTo (storedDevice config) (bootOf (storedDevice config))

/-- A start, a timer that switches on, a restart of the program, and a start. -/
theorem relay_agrees_timer :
    ∃ (final : SwitchDevice) (ram : SwitchRam), final.ram = some ram ∧
      Agrees ram (configStore.view final.hardware) := by
  have run : Run SwitchStep (storedDevice ⟨0, 0, 0, 0⟩)
      [.boot, .work (.timer (some (asciiBytes "on"))), .reset .softRestart, .boot] _ :=
    .cons ⟨rfl, rfl⟩ (.cons ⟨_, _, rfl, rfl, rfl⟩
      (.cons ⟨_, true, rfl, rfl⟩ (.cons ⟨rfl, rfl⟩ .nil)))
  exact ⟨_, _, rfl, relay_agrees rfl run rfl⟩

end Agreement

section Restarts

variable {device next final : SwitchDevice} {event : SwitchEvent} {events : List SwitchEvent}
  {ram : SwitchRam} {config : Itdb04Config}

/-- The program does nothing but start; it may be reset while it runs, and its start may be cut
where the pins do not stay. -/
def IsRestart : SwitchEvent → Prop
  | .boot => True
  | .reset _ => True
  | .bootCut reason => iotgoIsXrstKeepGpio reason = false
  | .work _ => False
  | .cut _ _ => False

/-- The configuration with the relay as it says. -/
def settled (config : Itdb04Config) : Itdb04Config :=
  config.switched (startLevel config)

/-- The device starts with a configuration, or has started with it. -/
structure Starts (config : Itdb04Config) (device : SwitchDevice) : Prop where
  flash : device.ram = none →
    devLoadConfigFromFlash configSize device.hardware.chip = configLayout.encode config ∨
      devLoadConfigFromFlash configSize device.hardware.chip = configLayout.encode (settled config)
  pin : device.ram = none → iotgoIsXrstKeepGpio device.reason = true →
    device.hardware.output = startLevel config
  up : ∀ ram, device.ram = some ram →
    Agrees ram (configStore.view device.hardware) ∧ ram.config = settled config

theorem gpio_level_on (on : Bool) : decide (gpioLevel on = gpioLevel true) = on := by
  cases on <;> decide

theorem start_level_settled (config : Itdb04Config) :
    startLevel (settled config) = startLevel config := by
  have said : startLevel (settled config) =
      if config.startup = startupOn then true
      else if config.startup = startupStay then
        decide (gpioLevel (startLevel config) = gpioLevel true)
      else false := rfl
  rw [said, gpio_level_on]
  by_cases on : config.startup = startupOn
  · rw [if_pos on, startLevel, if_pos on]
  · rw [if_neg on]
    by_cases stay : config.startup = startupStay
    · rw [if_pos stay]
    · rw [if_neg stay, startLevel, if_neg on, if_neg stay]

theorem decoded (config : Itdb04Config) :
    configLayout.decode (configLayout.encode config) = config :=
  configLayout.decode_encode_all config

theorem boot_config (starts : Starts config device) (off : device.ram = none) :
    bootConfig device = config ∨ bootConfig device = settled config := by
  unfold bootConfig
  rcases starts.flash off with held | held
  · rw [held, decoded]
    exact .inl rfl
  · rw [held, decoded]
    exact .inr rfl

theorem level_of_starts (starts : Starts config device) (off : device.ram = none) :
    levelOf device = startLevel config := by
  unfold levelOf bootLevel
  by_cases kept : iotgoIsXrstKeepGpio device.reason = true
  · rw [if_pos kept]
    exact starts.pin off kept
  · rw [if_neg kept]
    rcases boot_config starts off with same | same
    · rw [same]
    · rw [same, start_level_settled]

theorem switched_starts (starts : Starts config device) (off : device.ram = none) :
    (bootConfig device).switched (levelOf device) = settled config := by
  rw [level_of_starts starts off]
  rcases boot_config starts off with same | same
  · rw [same]
    rfl
  · rw [same]
    rfl

/-- The start saves one configuration. -/
theorem boot_saves (starts : Starts config device) (off : device.ram = none) :
    (bootOf device).2 = [.output (startLevel config), .save (settled config)] := by
  have actions := congrArg Prod.snd (boot_of device)
  rw [actions]
  change [Action.output (levelOf device), .save ((bootConfig device).switched (levelOf device))] = _
  rw [switched_starts starts off, level_of_starts starts off]

theorem restarted_chip (reason : ResetReason) (level : Bool) (hardware : Hardware Bool Flash) :
    (restarted reason level hardware).hardware.chip = hardware.chip := by
  unfold restarted
  dsimp only
  split
  · rfl
  · rfl

theorem restarted_output {reason : ResetReason} (level : Bool) (hardware : Hardware Bool Flash)
    (kept : iotgoIsXrstKeepGpio reason = true) :
    (restarted reason level hardware).hardware.output = hardware.output := by
  rw [restarted, if_pos kept]

theorem gpio_level_injective {left right : Bool} (same : gpioLevel left = gpioLevel right) :
    left = right := by
  rw [← gpio_level_on left, same, gpio_level_on]

/-- A program that is stopped leaves the configuration that was there, or one it saves. -/
theorem stopped_config {actions : List SwitchAction} {hardware left : Hardware Bool Flash}
    (stopped : configStore.Stopped actions hardware left) :
    devLoadConfigFromFlash configSize left.chip =
        devLoadConfigFromFlash configSize hardware.chip ∨
      ∃ saved ∈ savedValues actions,
        devLoadConfigFromFlash configSize left.chip = configLayout.encode saved :=
  stopped_load stopped

theorem up_level (agrees : Agrees ram (configStore.view device.hardware))
    (same : ram.config = settled config) : ram.switchState = startLevel config := by
  have latest := agrees.latest
  rw [same] at latest
  exact (gpio_level_injective latest).symm

/-- A restart starts with what the device was left with. -/
theorem restart_starts (starts : Starts config device) (restarts : IsRestart event)
    (step : SwitchStep device event next) : Starts config next := by
  cases event with
  | work work => exact restarts.elim
  | cut work reason => exact restarts.elim
  | boot =>
      obtain ⟨off, rfl⟩ := step
      refine ⟨fun down => (Option.some_ne_none _ down).elim,
        fun down => (Option.some_ne_none _ down).elim, ?_⟩
      intro ram same
      refine ⟨ran_to_running (boot_agrees device _) ram same, ?_⟩
      cases same
      rw [boot_of]
      exact switched_starts starts off
  | reset reason =>
      obtain ⟨ram, level, up, rfl⟩ := step
      obtain ⟨agrees, same⟩ := starts.up ram up
      refine ⟨fun _ => .inr ?_, fun _ kept => ?_, fun ram up => by cases up⟩
      · rw [restarted_chip, ← same]
        exact agrees.flash
      · have kept : iotgoIsXrstKeepGpio reason = true := kept
        rw [restarted_output level _ kept]
        exact agrees.output.trans (up_level agrees same)
  | bootCut reason =>
      obtain ⟨off, left, level, stopped, rfl⟩ := step
      refine ⟨fun _ => ?_, fun _ kept => ?_, fun ram up => by cases up⟩
      · rw [restarted_chip]
        rcases stopped_config stopped with old | ⟨saved, member, new⟩
        · rw [old]
          exact starts.flash off
        · rw [boot_saves starts off] at member
          rw [new, List.mem_singleton.1 member]
          exact .inr rfl
      · exact absurd (kept.symm.trans restarts) (by decide)

theorem restarts_start (starts : Starts config device)
    (restarts : ∀ event ∈ events, IsRestart event) (run : Run SwitchStep device events final) :
    Starts config final := by
  induction run with
  | nil => exact starts
  | cons first _ ih =>
      have next := restart_starts starts (restarts _ List.mem_cons_self) first
      exact ih next fun event later => restarts event (List.mem_cons_of_mem _ later)

/-- What the device is left with when the power goes in the middle of a work. -/
theorem cut_starts {work : SwitchWork} {reason : ResetReason}
    (agrees : ∀ ram, device.ram = some ram → Agrees ram (configStore.view device.hardware))
    (cold : iotgoIsXrstKeepGpio reason = false)
    (step : SwitchStep device (.cut work reason) next) :
    ∃ ram done left, device.ram = some ram ∧ work.run ram = .ok done ∧
      (left = ram.config ∨ left ∈ savedValues done.2) ∧ Starts left next := by
  obtain ⟨ram, done, left, level, up, ran, stopped, rfl⟩ := step
  have pin : iotgoIsXrstKeepGpio (restarted reason level left).reason ≠ true := by
    exact fun kept => absurd (kept.symm.trans cold) (by decide)
  rcases stopped_config stopped with old | ⟨saved, member, new⟩
  · refine ⟨ram, done, ram.config, up, ran, .inl rfl, fun _ => .inl ?_,
      fun _ kept => absurd kept pin, fun ram up => by cases up⟩
    rw [restarted_chip, old]
    exact (agrees ram up).flash
  · refine ⟨ram, done, saved, up, ran, .inr member, fun _ => .inl ?_,
      fun _ kept => absurd kept pin, fun ram up => by cases up⟩
    rw [restarted_chip, new]

/-- A device that has run is reset in the middle of a work, with the pins lost, and then it is
restarted, any number of times. The relay is as the start says for the configuration that the
work began with, or for one that it saves. -/
theorem cut_restarts {start : SwitchDevice} {before : List SwitchEvent} {work : SwitchWork}
    {reason : ResetReason} (off : start.ram = none) (ran : Run SwitchStep start before device)
    (cold : iotgoIsXrstKeepGpio reason = false) (restarts : ∀ event ∈ events, IsRestart event)
    (run : Run SwitchStep device (.cut work reason :: events) final) {last : SwitchRam}
    (up : final.ram = some last) :
    ∃ ram done left, device.ram = some ram ∧ work.run ram = .ok done ∧
      (left = ram.config ∨ left ∈ savedValues done.2) ∧
      final.hardware.output = startLevel left ∧ last.config = settled left := by
  cases run with
  | cons first rest =>
      obtain ⟨ram, done, left, was, did, which, starts⟩ :=
        cut_starts (run_running off ran) cold first
      obtain ⟨agrees, same⟩ := (restarts_start starts restarts rest).up last up
      exact ⟨ram, done, left, was, did, which,
        agrees.output.trans (up_level agrees same), same⟩

theorem stay_settled (agrees : Agrees ram (configStore.view device.hardware))
    (stay : ram.config.startup = startupStay) :
    startLevel ram.config = ram.switchState ∧ ram.config = settled ram.config := by
  have apart : ¬ ram.config.startup = startupOn := by
    rw [stay]
    decide
  have level : startLevel ram.config = ram.switchState := by
    rw [startLevel, if_neg apart, if_pos stay, agrees.latest, gpio_level_on]
  refine ⟨level, ?_⟩
  rw [settled, level, Itdb04Config.switched, ← agrees.latest]

/-- With a setting to stay, the relay is after any restarts as it was before them. -/
theorem stay_restarts {start : SwitchDevice} {before : List SwitchEvent} (off : start.ram = none)
    (ran : Run SwitchStep start before device) (up : device.ram = some ram)
    (stay : ram.config.startup = startupStay) (restarts : ∀ event ∈ events, IsRestart event)
    (run : Run SwitchStep device events final) {last : SwitchRam}
    (again : final.ram = some last) :
    final.hardware.output = device.hardware.output ∧ last.switchState = ram.switchState ∧
      last.config = ram.config := by
  have agrees := run_running off ran ram up
  obtain ⟨level, same⟩ := stay_settled agrees stay
  have starts : Starts ram.config device := by
    refine ⟨fun down => ?_, fun down => ?_, fun other here => ?_⟩
    · exact (Option.some_ne_none _ (up.symm.trans down)).elim
    · exact (Option.some_ne_none _ (up.symm.trans down)).elim
    · cases up.symm.trans here
      exact ⟨agrees, same⟩
  obtain ⟨agreesLast, sameLast⟩ := (restarts_start starts restarts run).up last again
  have switched := (up_level agreesLast sameLast).trans level
  exact ⟨(agreesLast.output.trans switched).trans agrees.output.symm, switched,
    sameLast.trans same.symm⟩

theorem stored_boot (config : Itdb04Config) :
    (bootOf (storedDevice config)).1.config =
      config.switched (bootLevel .default true config) := by
  rw [boot_of]
  have read : bootConfig (storedDevice config) = config := by
    unfold bootConfig storedDevice
    dsimp only
    rw [load_saved_config config_words config_short]
    exact decoded config
  change (bootConfig (storedDevice config)).switched (levelOf (storedDevice config)) = _
  rw [levelOf, read]
  rfl

/-- The power goes before a timer has switched on. -/
theorem cut_restarts_timer :
    ∃ (device final : SwitchDevice) (last ram : SwitchRam)
      (done : SwitchRam × List SwitchAction) (left : Itdb04Config),
      final.ram = some last ∧ device.ram = some ram ∧
        (SwitchWork.timer (some (asciiBytes "on"))).run ram = .ok done ∧
        (left = ram.config ∨ left ∈ savedValues done.2) ∧
        final.hardware.output = startLevel left ∧ last.config = settled left := by
  have ran : Run SwitchStep (storedDevice ⟨2, 0, 0, 0⟩) [.boot] (bootedDevice ⟨2, 0, 0, 0⟩) :=
    .cons ⟨rfl, rfl⟩ .nil
  have run : Run SwitchStep (bootedDevice ⟨2, 0, 0, 0⟩)
      [.cut (.timer (some (asciiBytes "on"))) .default, .boot] _ :=
    .cons ⟨_, _, _, false, rfl, rfl, .here _ _, rfl⟩ (.cons ⟨rfl, rfl⟩ .nil)
  have restarts : ∀ event ∈ [SwitchEvent.boot], IsRestart event := by
    intro event member
    rw [List.mem_singleton.1 member]
    exact trivial
  obtain ⟨ram, done, left, found⟩ := cut_restarts rfl ran rfl restarts run rfl
  exact ⟨_, _, _, ram, done, left, rfl, found⟩

/-- The relay is on, the power goes twice, and the second start is not cut. -/
theorem stay_restarts_on :
    ∃ (device final : SwitchDevice) (last ram : SwitchRam),
      device.ram = some ram ∧ final.ram = some last ∧ final.hardware.output =
        device.hardware.output ∧ last.switchState = ram.switchState ∧ last.config = ram.config := by
  have ran : Run SwitchStep (storedDevice ⟨2, 1, 0, 0⟩) [.boot] (bootedDevice ⟨2, 1, 0, 0⟩) :=
    .cons ⟨rfl, rfl⟩ .nil
  have stay : (bootOf (storedDevice ⟨2, 1, 0, 0⟩)).1.config.startup = startupStay := by
    rw [stored_boot]
    rfl
  have run : Run SwitchStep (bootedDevice ⟨2, 1, 0, 0⟩)
      [.reset .default, .bootCut .default, .boot] _ :=
    .cons ⟨_, false, rfl, rfl⟩ (.cons ⟨rfl, _, false, .here _ _, rfl⟩ (.cons ⟨rfl, rfl⟩ .nil))
  have restarts : ∀ event ∈ [SwitchEvent.reset .default, .bootCut .default, .boot],
      IsRestart event := by
    intro event member
    simp only [List.mem_cons, List.not_mem_nil, or_false] at member
    rcases member with rfl | rfl | rfl
    · exact trivial
    · exact rfl
    · exact trivial
  obtain ⟨pin, switched, same⟩ := stay_restarts rfl ran rfl stay restarts run rfl
  exact ⟨_, _, _, _, rfl, rfl, pin, switched, same⟩

end Restarts

end IotgoFirmware.Device.SwitchRestarts
