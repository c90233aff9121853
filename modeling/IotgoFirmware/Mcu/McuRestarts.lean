import IotgoFirmware.Library.ByteCodecs
import IotgoFirmware.Library.DurableStores
import IotgoFirmware.Mcu.McuSettings
import IotgoFirmware.Storage.FlashParam

/-!
# What the MCU has set, in force and in flash

`FWTRX_TC.c` saves its configuration with every change and brings it into force again when it
starts: the rate of the line, the checksum, the watch dog, the lamp, and which reports the MCU
wants. The power may go at any point, also in the middle of a save. A watch dog that is not fed
pulls the line of the MCU down for a while, and is off then.
-/

namespace IotgoFirmware.Mcu.McuRestarts

open IotgoFirmware.Library.ByteCodecs
open IotgoFirmware.Library.ByteCodecs.ByteCodec
open IotgoFirmware.Library.CFaults
open IotgoFirmware.Library.CIntegers
open IotgoFirmware.Library.CJsonItems
open IotgoFirmware.Library.CStrings
open IotgoFirmware.Library.DurableStores
open IotgoFirmware.Library.DurableStores.DurableStore
open IotgoFirmware.Library.NorFlash
open IotgoFirmware.Library.StepRuns
open IotgoFirmware.Mcu.CmdDispatch
open IotgoFirmware.Mcu.CmdHandlers
open IotgoFirmware.Mcu.McuSettings
open IotgoFirmware.Mcu.TcQueue (TcState tcAddDataToQueue tcNull)
open IotgoFirmware.Send.SendJson (IoTgoDeviceMode)
open IotgoFirmware.Storage.FlashParam
open IotgoFirmware.Timers.TimerProc

set_option autoImplicit false

section Config

/-- Any byte but zero is true. -/
def flag : ByteCodec Bool :=
  byte.named (fun value => if value then 1 else 0) (fun value => value != 0) (by decide)

def tcLayout : ByteCodec TcConfig :=
  ((word.pair (flag.pair (byte.pair (flag.pair (byte.pair flag))))).padded 3).named
    (fun config => (config.baudrate, config.crcEnable, config.watchDog, config.sledOff,
      config.stateInfo, config.timerSync))
    (fun members => ⟨members.1, members.2.1, members.2.2.1, members.2.2.2.1, members.2.2.2.2.1,
      members.2.2.2.2.2⟩)
    fun _ => rfl

/-- `sizeof(tcConfig)`. -/
def tcConfigSize : Nat := 12

def tcMemory (config : TcConfig) : Memory tcConfigSize where
  bytes := tcLayout.encode config
  sized := tcLayout.encode_length config

theorem tc_config_words : 4 ∣ tcConfigSize := by decide

theorem tc_config_short : tcConfigSize ≤ sectorSize := by decide

theorem tc_saved (config : TcConfig) (flash : Flash) :
    tcLayout.decode (devLoadConfigFromFlash tcConfigSize
      (runOps (devSaveConfigToFlash (tcMemory config) flash) flash)) = config := by
  rw [load_saved_config tc_config_words tc_config_short]
  exact tcLayout.decode_encode_all config

theorem tc_torn (config : TcConfig) (before after : Flash)
    (cut : Cut (devSaveConfigToFlash (tcMemory config) before) before after) :
    tcLayout.decode (devLoadConfigFromFlash tcConfigSize after) =
        tcLayout.decode (devLoadConfigFromFlash tcConfigSize before) ∨
      tcLayout.decode (devLoadConfigFromFlash tcConfigSize after) = config := by
  rcases load_torn_config tc_config_words tc_config_short _ before after cut with old | new
  · exact .inl (congrArg tcLayout.decode old)
  · right
    rw [new]
    exact tcLayout.decode_encode_all config

def tcStore : DurableStore Flash TcConfig TcConfig where
  load flash := tcLayout.decode (devLoadConfigFromFlash tcConfigSize flash)
  seen config := config
  saved config flash := runOps (devSaveConfigToFlash (tcMemory config) flash) flash
  torn config before after := Cut (devSaveConfigToFlash (tcMemory config) before) before after
  loadSaved := tc_saved
  loadTorn := tc_torn

end Config

section Device

/-- The line that resets the MCU is high or low. -/
abbrev McuAction := Action Bool TcConfig

/-- The variables of the program. A timer that runs has the milliseconds that are left, and its
period or its argument; `state` and `lastState` are those of `queryState`. -/
structure McuRam where
  cmd : CmdState
  uartBaud : UInt32
  modifyBaudrate : Option (Nat × UInt32)
  watchDog : Option (Nat × Nat)
  appHighCtrl : Option Nat
  queryState : Option (Nat × Nat)
  state : Nat
  lastState : Nat

variable (ram : McuRam)

/-- The timers that a command arms or stops; the one of the rate gets the rate of the
configuration. -/
def performed : CmdEffect → McuRam
  | .arm .modifyBaudrate milliseconds _ =>
      { ram with modifyBaudrate := some (milliseconds, ram.cmd.tcConfig.baudrate) }
  | .arm .watchDog milliseconds _ => { ram with watchDog := some (milliseconds, milliseconds) }
  | .arm .queryState milliseconds _ => { ram with queryState := some (milliseconds, milliseconds) }
  | .disarm .modifyBaudrate => { ram with modifyBaudrate := none }
  | .disarm .watchDog => { ram with watchDog := none }
  | .disarm .queryState => { ram with queryState := none }
  | _ => ram

def savedBy : CmdEffect → Option McuAction
  | .saveConfig config => some (.save config)
  | _ => none

/-- A command has been served. -/
def commandDone (next : CmdState) : McuRam × List McuAction :=
  let effects := next.log.drop ram.cmd.log.length
  (effects.foldl performed { ram with cmd := next }, effects.filterMap savedBy)

/-- `TA_HIGH_PRIORITY_CTRL_LOW_WIDTH`. -/
def lowWidth : Nat := 500

def cbWatchDogHighCtrlTimer : McuRam × List McuAction :=
  let config := { ram.cmd.tcConfig with watchDog := 0 }
  ({ ram with watchDog := none, cmd := { ram.cmd with tcConfig := config } },
    [.output true, .save config])

def taWatchDogCallback : McuRam × List McuAction :=
  ({ ram with appHighCtrl := some lowWidth }, [.output false])

/-- The modes that no branch names leave the state. -/
def queriedState (state : Nat) : IoTgoDeviceMode → Nat
  | .workNormal => 1
  | .start => 2
  | .workApErr => 2
  | .workApOk => 3
  | .workInit => 4
  | .setting => 5
  | .settingSelfap => 6
  | .factory => state
  | .upgrade => state
  | .invalid => state

def stateText (state : Nat) : List UInt8 :=
  asciiBytes "[\"state\"," ++ decimalText state ++ asciiBytes "]"

def queryState (mode : IoTgoDeviceMode) : McuRam :=
  let state := queriedState ram.state mode
  if state ≠ ram.lastState then
    let added := tcAddDataToQueue ram.cmd.tc (some (stateText state ++ [0])) tcNull false
    { ram with state := state, lastState := state, cmd := { ram.cmd with tc := added.2 } }
  else { ram with state := state }

def highCtrlElapsed : McuRam × List McuAction :=
  match ram.appHighCtrl with
  | none => (ram, [])
  | some left =>
      if left ≤ 1 then cbWatchDogHighCtrlTimer { ram with appHighCtrl := none }
      else ({ ram with appHighCtrl := some (left - 1) }, [])

def watchDogElapsed : McuRam × List McuAction :=
  match ram.watchDog with
  | none => (ram, [])
  | some (left, period) =>
      if left ≤ 1 then taWatchDogCallback { ram with watchDog := some (period, period) }
      else ({ ram with watchDog := some (left - 1, period) }, [])

def modifyElapsed : McuRam :=
  match ram.modifyBaudrate with
  | none => ram
  | some (left, rate) =>
      if left ≤ 1 then { ram with modifyBaudrate := none, uartBaud := rate }
      else { ram with modifyBaudrate := some (left - 1, rate) }

def queryElapsed (mode : IoTgoDeviceMode) : McuRam :=
  match ram.queryState with
  | none => ram
  | some (left, period) =>
      if left ≤ 1 then queryState { ram with queryState := some (period, period) } mode
      else { ram with queryState := some (left - 1, period) }

def lineElapsed : McuRam × List McuAction :=
  let high := highCtrlElapsed ram
  let dog := watchDogElapsed high.1
  (dog.1, high.2 ++ dog.2)

/-- A millisecond is over: the timers that have run out are called. -/
def elapsed (mode : IoTgoDeviceMode) : McuRam × List McuAction :=
  let line := lineElapsed ram
  (queryElapsed (modifyElapsed line.1) mode, line.2)

/-- The configuration that `initTcConfig` makes of what it has loaded. -/
def checkedConfig (config : TcConfig) : TcConfig :=
  { config with
    baudrate := if config.baudrate ≠ 9600 ∧ config.baudrate ≠ 115200 then 9600
      else config.baudrate
    watchDog := if 60 < config.watchDog then 0 else config.watchDog }

/-- `switchInitIoTgoDevice`; what else the program starts with is in `fresh`. -/
def switchInitIoTgoDevice (fresh : CmdState) (loaded : TcConfig) : McuRam :=
  let config := checkedConfig loaded
  { cmd := { fresh with
      tcConfig := config
      normalModeLedOff := config.sledOff
      crcEnable := config.crcEnable
      tmrMsgFlag := config.timerSync
      tc := (tcAddDataToQueue .initial (some (asciiBytes "[\"start\"]" ++ [0])) tcNull false).2 }
    uartBaud := config.baudrate
    modifyBaudrate := none
    watchDog := if 0 < config.watchDog then
      some (1000 * config.watchDog.toNat, 1000 * config.watchDog.toNat) else none
    appHighCtrl := none
    queryState := if 0 < config.stateInfo then some (1000, 1000) else none
    state := 1
    lastState := 4 }

/-- `ram` is there while the program runs. -/
structure McuDevice where
  ram : Option McuRam
  hardware : Hardware Bool Flash

/-- What the program may be at when it runs; other tasks leave the settings. -/
inductive McuWork where
  | command (world : TimerWorld) (reads : CmdReads) (root : CJsonItem)
  | millisecond (mode : IoTgoDeviceMode)
  | other (next : CmdState)

def McuWork.run : McuWork → Checked (McuRam × List McuAction)
  | .command world reads root => (serveCmd world reads ram.cmd root).map (commandDone ram)
  | .millisecond mode => .ok (elapsed ram mode)
  | .other next => .ok ({ ram with cmd := next }, [])

def McuWork.Allowed : McuWork → Prop
  | .command _ _ _ => True
  | .millisecond _ => True
  | .other next => settingsOf next = settingsOf ram.cmd

/-- The power goes behind a work or in the middle of one, and the line may be at any level
then. -/
inductive McuEvent where
  | work (work : McuWork)
  | cut (work : McuWork) (level : Bool)
  | boot (fresh : CmdState)

/-- The program runs, and has done what it was to do. -/
def ranTo (device : McuDevice) (done : McuRam × List McuAction) : McuDevice where
  ram := some done.1
  hardware := tcStore.actionsDone done.2 device.hardware

def bootOf (fresh : CmdState) (device : McuDevice) : McuRam × List McuAction :=
  (switchInitIoTgoDevice fresh (tcStore.load device.hardware.chip), [.output true])

def McuStep (device : McuDevice) (event : McuEvent) (next : McuDevice) : Prop :=
  match event with
  | .work work => ∃ ram done, device.ram = some ram ∧ work.Allowed ram ∧ work.run ram = .ok done ∧
      next = ranTo device done
  | .cut work level => ∃ ram done left, device.ram = some ram ∧ work.Allowed ram ∧
      work.run ram = .ok done ∧ tcStore.Stopped done.2 device.hardware left ∧
      next = ⟨none, { left with output := level }⟩
  | .boot fresh => device.ram = none ∧ next = ranTo device (bootOf fresh device)

end Device

section Invariant

/-- What the MCU has set is in force, and in flash. A pulse on the line ends before the watch dog
runs out again. -/
structure InForce (ram : McuRam) (hardware : Hardware Bool Flash) : Prop where
  stored : checkedConfig (tcStore.load hardware.chip) = ram.cmd.tcConfig
  sled : ram.cmd.normalModeLedOff = ram.cmd.tcConfig.sledOff
  crc : ram.cmd.crcEnable = ram.cmd.tcConfig.crcEnable
  tmrMsg : ram.cmd.tmrMsgFlag = ram.cmd.tcConfig.timerSync
  rate : ram.modifyBaudrate = none → ram.uartBaud = ram.cmd.tcConfig.baudrate
  nextRate : ∀ left rate, ram.modifyBaudrate = some (left, rate) →
    left ≤ 100 ∧ rate = ram.cmd.tcConfig.baudrate
  dogOff : ram.watchDog = none ↔ ram.cmd.tcConfig.watchDog = 0
  dog : ∀ left period, ram.watchDog = some (left, period) →
    0 < left ∧ left ≤ period ∧ period = 1000 * ram.cmd.tcConfig.watchDog.toNat
  query : ram.cmd.tcConfig.stateInfo ≠ 0 → ram.queryState.isSome = true
  line : hardware.output = ram.appHighCtrl.isNone
  pulse : ∀ left, ram.appHighCtrl = some left → 0 < left ∧ left ≤ lowWidth
  alone : ∀ left rest period, ram.appHighCtrl = some left → ram.watchDog = some (rest, period) →
    left < rest

variable {ram : McuRam} {hardware : Hardware Bool Flash} {next : CmdState} {setting : Setting}

/-- A rate and a period that `initTcConfig` leaves. -/
structure Sound (config : TcConfig) : Prop where
  rate : config.baudrate = 9600 ∨ config.baudrate = 115200
  dog : config.watchDog ≤ 60

theorem sound_checked (config : TcConfig) : Sound (checkedConfig config) := by
  unfold checkedConfig
  constructor
  · dsimp only
    split_ifs with other
    · exact .inl rfl
    · rw [not_and_or, not_ne_iff, not_ne_iff] at other
      exact other
  · dsimp only
    split_ifs with long
    · decide
    · exact UInt8.not_lt.1 long

theorem checked_of_sound {config : TcConfig} (sound : Sound config) :
    checkedConfig config = config := by
  have rate : ¬ (config.baudrate ≠ 9600 ∧ config.baudrate ≠ 115200) := by
    rw [not_and_or, not_ne_iff, not_ne_iff]
    exact sound.rate
  rw [checkedConfig, if_neg rate, if_neg (UInt8.not_lt.2 sound.dog)]

theorem in_force_sound (held : InForce ram hardware) : Sound ram.cmd.tcConfig := by
  rw [← held.stored]
  exact sound_checked _

/-- The numbers of a command that sets something. -/
def Valid : Setting → Prop
  | .baudrate rate => rate = 9600 ∨ rate = 115200
  | .dog seconds => seconds ≤ 60
  | _ => True

theorem setting_valid {root : CJsonItem} (sets : settingOf root = some setting) :
    Valid setting := by
  rw [settingOf, Option.bind_eq_some_iff] at sets
  obtain ⟨name, -, named⟩ := sets
  rw [settingNamed, Option.bind_eq_some_iff] at named
  obtain ⟨entry, found, numbered⟩ := named
  rw [Option.bind_eq_some_iff] at numbered
  obtain ⟨number, -, set⟩ := numbered
  have listed := List.mem_of_find?_eq_some found
  simp only [settingNames, List.mem_cons, List.not_mem_nil, or_false] at listed
  rcases listed with rfl | rfl | rfl | rfl | rfl | rfl
  · dsimp only at set
    split_ifs at set with known
    cases set
    exact known.imp (congrArg Int.toNat) (congrArg Int.toNat)
  · dsimp only at set
    split_ifs at set with known
    cases set
    exact Int.toNat_le.2 known.2
  · cases set
    trivial
  · cases set
    trivial
  · cases set
    trivial
  · cases set
    trivial

theorem dog_seconds {seconds : Nat} (few : seconds ≤ 60) :
    (UInt8.ofInt seconds).toNat = seconds := by
  have value := uint8_of_int_value seconds
  omega

theorem sound_set {settings : Settings} (valid : Valid setting) (sound : Sound settings.config) :
    Sound (settings.set setting).config := by
  cases setting with
  | baudrate rate =>
      refine ⟨?_, sound.dog⟩
      rcases valid with rfl | rfl
      · exact .inl rfl
      · exact .inr rfl
  | dog seconds =>
      refine ⟨sound.rate, UInt8.le_iff_toNat_le.2 ?_⟩
      have few : seconds ≤ 60 := valid
      change (UInt8.ofInt seconds).toNat ≤ 60
      rw [dog_seconds few]
      exact few
  | sled shown => exact ⟨sound.rate, sound.dog⟩
  | stateInfo subscribed => exact ⟨sound.rate, sound.dog⟩
  | crc enabled => exact ⟨sound.rate, sound.dog⟩
  | tmrMsg told => exact ⟨sound.rate, sound.dog⟩

theorem performed_other {effect : CmdEffect} (other : isSetting effect = false) :
    performed ram effect = ram := by
  cases effect with
  | arm timer milliseconds again => cases timer <;> first | rfl | cases other
  | disarm timer => cases timer <;> first | rfl | cases other
  | frame => rfl
  | saveConfig => rfl
  | postCore => rfl
  | postUpdateTimer => rfl
  | package => rfl

theorem saved_by_other {effect : CmdEffect} (other : isSetting effect = false) :
    savedBy effect = none := by
  cases effect with
  | saveConfig => cases other
  | _ => rfl

/-- Only the effects that belong to settings count. -/
theorem performed_filter (effects : List CmdEffect) (ram : McuRam) :
    effects.foldl performed ram = (effects.filter isSetting).foldl performed ram := by
  induction effects generalizing ram with
  | nil => rfl
  | cons effect effects ih =>
      cases counts : isSetting effect with
      | true =>
          rw [List.filter_cons_of_pos counts]
          exact ih _
      | false =>
          rw [List.filter_cons_of_neg (by rw [counts]; decide), List.foldl_cons,
            performed_other counts]
          exact ih ram

theorem saved_by_filter (effects : List CmdEffect) :
    effects.filterMap savedBy = (effects.filter isSetting).filterMap savedBy := by
  induction effects with
  | nil => rfl
  | cons effect effects ih =>
      cases counts : isSetting effect with
      | true => rw [List.filter_cons_of_pos counts, List.filterMap_cons, List.filterMap_cons, ih]
      | false =>
          rw [List.filter_cons_of_neg (by rw [counts]; decide),
            List.filterMap_cons_none (saved_by_other counts), ih]

theorem command_done {set : Option Setting} (sets : Sets ram.cmd set next) :
    commandDone ram next =
      ((set.elim [] (·.effects next.tcConfig)).foldl performed { ram with cmd := next },
        (set.elim [] (·.effects next.tcConfig)).filterMap savedBy) := by
  obtain ⟨effects, logged, filtered⟩ := sets.effects
  rw [commandDone, logged, List.drop_left, performed_filter, saved_by_filter, filtered]

/-- A command brings into force what it sets, and saves it. -/
theorem in_force_set (held : InForce ram hardware) (valid : Valid setting)
    (settings : settingsOf next = (settingsOf ram.cmd).set setting) :
    InForce ((setting.effects next.tcConfig).foldl performed { ram with cmd := next })
      (tcStore.actionsDone ((setting.effects next.tcConfig).filterMap savedBy) hardware) := by
  have sound : Sound next.tcConfig := by
    have after := @sound_set setting (settingsOf ram.cmd) valid (in_force_sound held)
    rw [← settings] at after
    exact after
  obtain ⟨tcConfig, normalModeLedOff, crcEnable, tmrMsgFlag, flow, timers, tc, log⟩ := next
  have stored : checkedConfig (tcStore.load (tcStore.saved tcConfig hardware.chip)) = tcConfig := by
    rw [tcStore.loadSaved]
    exact checked_of_sound sound
  cases setting with
  | baudrate rate =>
      simp only [settingsOf, Settings.set, Settings.mk.injEq] at settings
      obtain ⟨rfl, rfl, rfl, rfl⟩ := settings
      refine { held with stored := stored, rate := ?_, nextRate := ?_ }
      · intro idle
        cases idle
      · intro left rate armed
        cases armed
        exact ⟨Nat.le_refl 100, rfl⟩
  | dog seconds =>
      simp only [settingsOf, Settings.set, Settings.mk.injEq] at settings
      obtain ⟨rfl, rfl, rfl, rfl⟩ := settings
      have value := dog_seconds (show seconds ≤ 60 from valid)
      by_cases off : seconds = 0
      · subst off
        exact { held with
          stored := stored
          dogOff := ⟨fun _ => rfl, fun _ => rfl⟩
          dog := fun _ _ armed => (by cases armed)
          alone := fun _ _ _ _ armed => (by cases armed) }
      · rw [Setting.effects, if_neg off]
        refine { held with stored := stored, dogOff := ?_, dog := ?_, alone := ?_ }
        · refine ⟨fun idle => (by cases idle), fun zero => absurd ?_ off⟩
          rw [← value, show UInt8.ofInt seconds = 0 from zero]
          rfl
        · intro left period armed
          cases armed
          exact ⟨by omega, Nat.le_refl _, congrArg (1000 * ·) value.symm⟩
        · intro left rest period low armed
          cases armed
          have short := (held.pulse left low).2
          unfold lowWidth at short
          omega
  | sled shown =>
      simp only [settingsOf, Settings.set, Settings.mk.injEq] at settings
      obtain ⟨rfl, rfl, rfl, rfl⟩ := settings
      exact { held with stored := stored, sled := rfl }
  | stateInfo subscribed =>
      simp only [settingsOf, Settings.set, Settings.mk.injEq] at settings
      obtain ⟨rfl, rfl, rfl, rfl⟩ := settings
      by_cases off : subscribed = 0
      · subst off
        exact { held with stored := stored, query := fun wanted => absurd rfl wanted }
      · rw [Setting.effects, if_neg off]
        exact { held with stored := stored, query := fun _ => rfl }
  | crc enabled =>
      simp only [settingsOf, Settings.set, Settings.mk.injEq] at settings
      obtain ⟨rfl, rfl, rfl, rfl⟩ := settings
      exact { held with stored := stored, crc := rfl }
  | tmrMsg told =>
      simp only [settingsOf, Settings.set, Settings.mk.injEq] at settings
      obtain ⟨rfl, rfl, rfl, rfl⟩ := settings
      exact { held with stored := stored, tmrMsg := rfl }

theorem in_force_other (held : InForce ram hardware) (same : settingsOf next = settingsOf ram.cmd) :
    InForce { ram with cmd := next } hardware := by
  obtain ⟨tcConfig, normalModeLedOff, crcEnable, tmrMsgFlag, flow, timers, tc, log⟩ := next
  simp only [settingsOf, Settings.mk.injEq] at same
  obtain ⟨rfl, rfl, rfl, rfl⟩ := same
  exact { held with }

theorem in_force_command {world : TimerWorld} {reads : CmdReads} {root : CJsonItem}
    (held : InForce ram hardware) (served : serveCmd world reads ram.cmd root = .ok next) :
    InForce (commandDone ram next).1 (tcStore.actionsDone (commandDone ram next).2 hardware) := by
  have sets := serve_cmd_sets served
  rw [command_done sets]
  cases set : settingOf root with
  | none =>
      rw [set] at sets
      exact in_force_other held sets.settings
  | some setting =>
      rw [set] at sets
      exact in_force_set held (setting_valid set) sets.settings

/-- What a millisecond does to the watch dog and to the line: nothing runs, the watch dog counts,
it runs out, the pulse goes on, or it ends and the watch dog is off. -/
inductive LineCase (ram : McuRam) : McuRam × List McuAction → Prop where
  | idle (up : ram.appHighCtrl = none) (off : ram.watchDog = none) : LineCase ram (ram, [])
  | counting {rest period : Nat} (up : ram.appHighCtrl = none)
      (armed : ram.watchDog = some (rest + 2, period)) :
      LineCase ram ({ ram with watchDog := some (rest + 1, period) }, [])
  | due {period : Nat} (up : ram.appHighCtrl = none) (armed : ram.watchDog = some (1, period)) :
      LineCase ram
        ({ ram with watchDog := some (period, period), appHighCtrl := some lowWidth },
          [.output false])
  | low {left : Nat} (down : ram.appHighCtrl = some (left + 2)) :
      LineCase ram
        ({ ram with
          appHighCtrl := some (left + 1)
          watchDog := ram.watchDog.map fun timer => (timer.1 - 1, timer.2) }, [])
  | ended (down : ram.appHighCtrl = some 1) :
      LineCase ram
        ({ ram with
          appHighCtrl := none
          watchDog := none
          cmd := { ram.cmd with tcConfig := { ram.cmd.tcConfig with watchDog := 0 } } },
          [.output true, .save { ram.cmd.tcConfig with watchDog := 0 }])

theorem line_case (held : InForce ram hardware) : LineCase ram (lineElapsed ram) := by
  cases low : ram.appHighCtrl with
  | none =>
      cases armed : ram.watchDog with
      | none =>
          have same : lineElapsed ram = (ram, []) := by
            simp only [lineElapsed, highCtrlElapsed, low, watchDogElapsed, armed, List.append_nil]
          rw [same]
          exact .idle low armed
      | some timer =>
          obtain ⟨rest, period⟩ := timer
          obtain ⟨positive, -, -⟩ := held.dog rest period armed
          obtain ⟨rest, rfl⟩ := Nat.exists_eq_succ_of_ne_zero (Nat.ne_of_gt positive)
          cases rest with
          | zero =>
              have same : lineElapsed ram =
                  ({ ram with watchDog := some (period, period), appHighCtrl := some lowWidth },
                    [.output false]) := by
                simp [lineElapsed, highCtrlElapsed, low, watchDogElapsed, armed,
                  taWatchDogCallback]
              rw [same]
              exact .due low armed
          | succ rest =>
              have same : lineElapsed ram =
                  ({ ram with watchDog := some (rest + 1, period) }, []) := by
                simp [lineElapsed, highCtrlElapsed, low, watchDogElapsed, armed]
              rw [same]
              exact .counting low armed
  | some left =>
      obtain ⟨positive, -⟩ := held.pulse left low
      obtain ⟨left, rfl⟩ := Nat.exists_eq_succ_of_ne_zero (Nat.ne_of_gt positive)
      cases left with
      | zero =>
          have same := LineCase.ended low
          convert same using 1
          simp [lineElapsed, highCtrlElapsed, low, watchDogElapsed, cbWatchDogHighCtrlTimer]
      | succ left =>
          have same := LineCase.low low
          convert same using 1
          cases armed : ram.watchDog with
          | none => simp [lineElapsed, highCtrlElapsed, low, watchDogElapsed, armed]
          | some timer =>
              obtain ⟨rest, period⟩ := timer
              have later := held.alone _ rest period low armed
              simp [lineElapsed, highCtrlElapsed, low, watchDogElapsed, armed]
              omega

theorem in_force_line (held : InForce ram hardware) :
    InForce (lineElapsed ram).1 (tcStore.actionsDone (lineElapsed ram).2 hardware) := by
  have line := line_case held
  generalize lineElapsed ram = after at line ⊢
  cases line with
  | idle => exact held
  | @counting rest period up armed =>
      obtain ⟨-, short, same⟩ := held.dog _ period armed
      have on : ram.cmd.tcConfig.watchDog ≠ 0 := by
        intro off
        rw [held.dogOff.2 off] at armed
        cases armed
      refine { held with dogOff := ?_, dog := ?_, alone := ?_ }
      · exact ⟨fun idle => (by cases idle), fun off => absurd off on⟩
      · intro left other counted
        cases counted
        exact ⟨Nat.succ_pos rest, by omega, same⟩
      · intro left other _ down
        rw [up] at down
        cases down
  | @due period up armed =>
      obtain ⟨-, short, same⟩ := held.dog _ period armed
      have on : ram.cmd.tcConfig.watchDog ≠ 0 := by
        intro off
        rw [held.dogOff.2 off] at armed
        cases armed
      refine { held with dogOff := ?_, dog := ?_, line := rfl, pulse := ?_, alone := ?_ }
      · exact ⟨fun idle => (by cases idle), fun off => absurd off on⟩
      · intro left other counted
        cases counted
        exact ⟨short, Nat.le_refl _, same⟩
      · intro left low
        cases low
        exact ⟨by decide, Nat.le_refl _⟩
      · intro left rest other low counted
        cases low
        cases counted
        unfold lowWidth
        omega
  | @low left down =>
      obtain ⟨-, short⟩ := held.pulse _ down
      refine { held with dogOff := ?_, dog := ?_, line := ?_, pulse := ?_, alone := ?_ }
      · rw [← held.dogOff]
        exact Option.map_eq_none_iff
      · intro rest period counted
        obtain ⟨⟨other, _⟩, armed, same⟩ := Option.map_eq_some_iff.1 counted
        cases same
        obtain ⟨-, few, period⟩ := held.dog _ _ armed
        have later := held.alone _ _ _ down armed
        exact ⟨by omega, by omega, period⟩
      · exact held.line.trans (by rw [down]; rfl)
      · intro other low
        cases low
        exact ⟨Nat.succ_pos left, by omega⟩
      · intro other rest period low counted
        cases low
        obtain ⟨⟨other, _⟩, armed, same⟩ := Option.map_eq_some_iff.1 counted
        cases same
        have later := held.alone _ _ _ down armed
        omega
  | ended down =>
      have sound : Sound { ram.cmd.tcConfig with watchDog := 0 } :=
        ⟨(in_force_sound held).rate, show (0 : UInt8) ≤ 60 by decide⟩
      refine { held with
        stored := ?_
        dogOff := ⟨fun _ => rfl, fun _ => rfl⟩
        dog := fun _ _ armed => (by cases armed)
        line := rfl
        pulse := fun _ low => (by cases low)
        alone := fun _ _ _ low => (by cases low) }
      change checkedConfig (tcStore.load (tcStore.saved _ hardware.chip)) = _
      rw [tcStore.loadSaved]
      exact checked_of_sound sound

theorem in_force_modify (held : InForce ram hardware) : InForce (modifyElapsed ram) hardware := by
  unfold modifyElapsed
  cases armed : ram.modifyBaudrate with
  | none => exact held
  | some timer =>
      obtain ⟨left, rate⟩ := timer
      obtain ⟨soon, same⟩ := held.nextRate left rate armed
      dsimp only
      split
      · exact { held with rate := fun _ => same, nextRate := fun _ _ idle => (by cases idle) }
      · refine { held with rate := fun idle => (by cases idle), nextRate := ?_ }
        intro left rate armed
        cases armed
        exact ⟨by omega, same⟩

theorem in_force_query (held : InForce ram hardware) (mode : IoTgoDeviceMode) :
    InForce (queryElapsed ram mode) hardware := by
  unfold queryElapsed
  cases armed : ram.queryState with
  | none => exact held
  | some timer =>
      dsimp only
      split
      · unfold queryState
        dsimp only
        split
        · exact { held with query := fun _ => rfl }
        · exact { held with query := fun _ => rfl }
      · exact { held with query := fun _ => rfl }

theorem in_force_elapsed (held : InForce ram hardware) (mode : IoTgoDeviceMode) :
    InForce (elapsed ram mode).1 (tcStore.actionsDone (elapsed ram mode).2 hardware) :=
  in_force_query (in_force_modify (in_force_line held)) mode

/-- A command that is served to its end. -/
theorem command_ran {world : TimerWorld} {reads : CmdReads} {root : CJsonItem}
    {done : McuRam × List McuAction}
    (ran : (McuWork.command world reads root).run ram = .ok done) :
    ∃ next, serveCmd world reads ram.cmd root = .ok next ∧ done = commandDone ram next := by
  rw [McuWork.run] at ran
  cases served : serveCmd world reads ram.cmd root with
  | error fault =>
      rw [served] at ran
      cases ran
  | ok next =>
      rw [served] at ran
      exact ⟨next, rfl, (Except.ok.inj ran).symm⟩

theorem in_force_work {work : McuWork} {done : McuRam × List McuAction}
    (held : InForce ram hardware) (allowed : work.Allowed ram) (ran : work.run ram = .ok done) :
    InForce done.1 (tcStore.actionsDone done.2 hardware) := by
  cases work with
  | command world reads root =>
      obtain ⟨next, served, rfl⟩ := command_ran ran
      exact in_force_command held served
  | millisecond mode =>
      cases ran
      exact in_force_elapsed held mode
  | other next =>
      cases ran
      exact in_force_other held allowed

/-- The start brings into force what is in flash. -/
theorem in_force_boot (fresh : CmdState) (device : McuDevice) :
    InForce (bootOf fresh device).1 (ranTo device (bootOf fresh device)).hardware := by
  unfold bootOf switchInitIoTgoDevice
  constructor
  case stored => rfl
  case sled => rfl
  case crc => rfl
  case tmrMsg => rfl
  case rate => exact fun _ => rfl
  case nextRate => exact fun _ _ armed => (by cases armed)
  case line => rfl
  case pulse => exact fun _ low => (by cases low)
  case alone => exact fun _ _ _ low => (by cases low)
  case dogOff =>
    dsimp only
    split
    · rename_i on
      exact ⟨fun idle => (by cases idle), fun off => absurd off (UInt8.pos_iff_ne_zero.1 on)⟩
    · rename_i off
      exact ⟨fun _ => not_not.1 fun on => off (UInt8.pos_iff_ne_zero.2 on), fun _ => rfl⟩
  case dog =>
    intro left period armed
    dsimp only at armed
    split at armed
    · rename_i on
      cases armed
      have positive := UInt8.lt_iff_toNat_lt.1 on
      exact ⟨Nat.mul_pos (by decide) positive, Nat.le_refl _, rfl⟩
    · cases armed
  case query =>
    intro wanted
    dsimp only at wanted ⊢
    rw [if_pos (UInt8.pos_iff_ne_zero.2 wanted)]
    rfl

theorem in_force_step {device next : McuDevice} {event : McuEvent}
    (held : ∀ ram, device.ram = some ram → InForce ram device.hardware)
    (step : McuStep device event next) (ram : McuRam) (up : next.ram = some ram) :
    InForce ram next.hardware := by
  cases event with
  | work work =>
      obtain ⟨before, done, running, allowed, ran, rfl⟩ := step
      cases up
      exact in_force_work (held before running) allowed ran
  | cut work level =>
      obtain ⟨before, done, left, running, allowed, ran, stopped, rfl⟩ := step
      cases up
  | boot fresh =>
      obtain ⟨down, rfl⟩ := step
      cases up
      exact in_force_boot fresh device

theorem in_force_run {device final : McuDevice} {events : List McuEvent} {ram : McuRam}
    (off : device.ram = none) (run : Run McuStep device events final)
    (up : final.ram = some ram) : InForce ram final.hardware := by
  apply run_keeps (fun device => ∀ ram, device.ram = some ram → InForce ram device.hardware)
    (fun _ _ _ held step => in_force_step held step) _ run ram up
  intro ram up
  rw [off] at up
  cases up

end Invariant

section Restarts

variable {ram : McuRam} {hardware : Hardware Bool Flash} {next : CmdState}

theorem performed_cmd (effects : List CmdEffect) (ram : McuRam) :
    (effects.foldl performed ram).cmd = ram.cmd := by
  induction effects generalizing ram with
  | nil => rfl
  | cons effect effects ih =>
      rw [List.foldl_cons, ih]
      cases effect with
      | arm timer milliseconds again => cases timer <;> rfl
      | disarm timer => cases timer <;> rfl
      | _ => rfl

theorem setting_saves (setting : Setting) (config : TcConfig) :
    (setting.effects config).filterMap savedBy = [.save config] := by
  cases setting with
  | baudrate rate => rfl
  | dog seconds =>
      by_cases off : seconds = 0
      · rw [Setting.effects, if_pos off]
        rfl
      · rw [Setting.effects, if_neg off]
        rfl
  | sled shown => rfl
  | stateInfo subscribed =>
      by_cases off : subscribed = 0
      · rw [Setting.effects, if_pos off]
        rfl
      · rw [Setting.effects, if_neg off]
        rfl
  | crc enabled => rfl
  | tmrMsg told => rfl

theorem elapsed_config (mode : IoTgoDeviceMode) :
    (elapsed ram mode).1.cmd.tcConfig = (lineElapsed ram).1.cmd.tcConfig := by
  have queried (ram : McuRam) : (queryElapsed ram mode).cmd.tcConfig = ram.cmd.tcConfig := by
    unfold queryElapsed queryState
    split
    · rfl
    · split
      · dsimp only
        split <;> rfl
      · rfl
  have modified (ram : McuRam) : (modifyElapsed ram).cmd = ram.cmd := by
    unfold modifyElapsed
    split
    · rfl
    · split <;> rfl
  rw [elapsed, queried, modified]

/-- What a work saves is the configuration that it leaves. -/
theorem work_saves {work : McuWork} {done : McuRam × List McuAction}
    (held : InForce ram hardware) (ran : work.run ram = .ok done) :
    ∀ value ∈ savedValues done.2, value = done.1.cmd.tcConfig := by
  intro value member
  cases work with
  | command world reads root =>
      obtain ⟨next, served, rfl⟩ := command_ran ran
      rw [command_done (serve_cmd_sets served)] at member ⊢
      rw [performed_cmd]
      cases set : settingOf root with
      | none =>
          rw [set] at member
          cases member
      | some setting =>
          rw [set] at member
          change value ∈ savedValues ((setting.effects _).filterMap savedBy) at member
          rw [setting_saves] at member
          exact List.mem_singleton.1 member
  | millisecond mode =>
      cases ran
      rw [elapsed_config]
      change value ∈ savedValues (lineElapsed ram).2 at member
      have line := line_case held
      generalize lineElapsed ram = after at line member
      cases line with
      | ended => exact List.mem_singleton.1 member
      | _ => cases member
  | other next =>
      cases ran
      cases member

def setConfig (config : TcConfig) (setting : Setting) : TcConfig :=
  (Settings.set ⟨config, false, false, false⟩ setting).config

/-- What a work makes of the configuration: a command sets what it names, and the end of a pulse
turns the watch dog off. -/
def WorkConfigures (work : McuWork) (config next : TcConfig) : Prop :=
  match work with
  | .command _ _ root => next = (settingOf root).elim config (setConfig config)
  | .millisecond _ => next = config ∨ next = { config with watchDog := 0 }
  | .other _ => next = config

/-- What an event makes of the configuration; a work that the power ends is done or not. -/
def Configures (config : TcConfig) (event : McuEvent) (next : TcConfig) : Prop :=
  match event with
  | .work work => WorkConfigures work config next
  | .cut work _ => next = config ∨ WorkConfigures work config next
  | .boot _ => next = config

def flashConfig (device : McuDevice) : TcConfig :=
  checkedConfig (tcStore.load device.hardware.chip)

theorem set_config (settings : Settings) (setting : Setting) :
    (settings.set setting).config = setConfig settings.config setting := by
  cases setting <;> rfl

theorem work_configures {work : McuWork} {done : McuRam × List McuAction}
    (held : InForce ram hardware) (allowed : work.Allowed ram) (ran : work.run ram = .ok done) :
    WorkConfigures work ram.cmd.tcConfig done.1.cmd.tcConfig := by
  cases work with
  | command world reads root =>
      obtain ⟨next, served, rfl⟩ := command_ran ran
      have sets := serve_cmd_sets served
      have config := congrArg Settings.config sets.settings
      rw [command_done sets, performed_cmd]
      change next.tcConfig = _ at config
      change next.tcConfig = (settingOf root).elim ram.cmd.tcConfig (setConfig ram.cmd.tcConfig)
      rw [config]
      cases settingOf root with
      | none => rfl
      | some setting => exact set_config (settingsOf ram.cmd) setting
  | millisecond mode =>
      cases ran
      rw [elapsed_config]
      have line := line_case held
      generalize lineElapsed ram = after at line ⊢
      cases line with
      | ended => exact .inr rfl
      | _ => exact .inl rfl
  | other next =>
      cases ran
      exact congrArg Settings.config allowed

theorem configures_step {device next : McuDevice} {event : McuEvent}
    (held : ∀ ram, device.ram = some ram → InForce ram device.hardware)
    (step : McuStep device event next) : Configures (flashConfig device) event (flashConfig next) := by
  cases event with
  | work work =>
      obtain ⟨ram, done, running, allowed, ran, rfl⟩ := step
      have here := held ram running
      have later := (in_force_work here allowed ran).stored
      have configures := work_configures here allowed ran
      rw [← here.stored, ← later] at configures
      exact configures
  | cut work level =>
      obtain ⟨ram, done, left, running, allowed, ran, stopped, rfl⟩ := step
      have here := held ram running
      have configures := work_configures here allowed ran
      rw [← here.stored] at configures
      rcases stopped_load stopped with old | ⟨value, member, new⟩
      · exact .inl (congrArg checkedConfig old)
      · have sound := in_force_sound (in_force_work here allowed ran)
        have same : checkedConfig (tcStore.load left.chip) = done.1.cmd.tcConfig := by
          rw [new, work_saves here ran value member]
          exact checked_of_sound sound
        rw [← same] at configures
        exact .inr configures
  | boot fresh =>
      obtain ⟨-, rfl⟩ := step
      rfl

theorem configures_run {device final : McuDevice} {events : List McuEvent}
    (off : device.ram = none) (run : Run McuStep device events final) :
    Run Configures (flashConfig device) events (flashConfig final) := by
  have begins : ∀ ram, device.ram = some ram → InForce ram device.hardware := by
    intro ram up
    rw [off] at up
    cases up
  have twin := @run_related _ _ McuStep _ Configures
    (fun device config => config = flashConfig device ∧
      ∀ ram, device.ram = some ram → InForce ram device.hardware)
    (by
      rintro before config event next ⟨rfl, held⟩ step
      exact ⟨_, configures_step held step, rfl, in_force_step held step⟩)
    device final (flashConfig device) events ⟨rfl, begins⟩ run
  obtain ⟨config, configured, rfl, -⟩ := twin
  exact configured

/-- A device with an erased flash, without power. -/
def erasedDevice : McuDevice := ⟨none, ⟨true, fun _ => 0xFF⟩⟩

/-- `["dog",5]`. -/
def dogFive : CJsonItem := .array [.string (asciiBytes "dog"), .number 5 5]

end Restarts

end IotgoFirmware.Mcu.McuRestarts
