import IotgoFirmware.Mcu.CmdDispatch

/-!
# What the commands of the MCU set

Six commands change the configuration of the transceiver. Each takes a number, sets a variable
or a timer, and saves the configuration once. All other commands leave the configuration, the
variables and the timers that go with it.
-/

namespace IotgoFirmware.Mcu.McuSettings

open IotgoFirmware.Library.CFaults
open IotgoFirmware.Library.CJsonItems
open IotgoFirmware.Library.CStrings
open IotgoFirmware.Mcu.CmdDispatch
open IotgoFirmware.Mcu.CmdHandlers
open IotgoFirmware.Timers.TimerProc
open IotgoFirmware.Uart.U2artSchedule (U2artError errorCode)

set_option autoImplicit false

section Settings

/-- The configuration and the variables that are set with it. -/
structure Settings where
  config : TcConfig
  normalModeLedOff : Bool
  crcEnable : Bool
  tmrMsgFlag : Bool

/-- What a command sets, with its number. -/
inductive Setting where
  | baudrate (rate : Nat)
  | dog (seconds : Nat)
  | sled (shown : Int)
  | stateInfo (subscribed : Int)
  | crc (enabled : Int)
  | tmrMsg (told : Int)

def Settings.set (settings : Settings) : Setting → Settings
  | .baudrate rate =>
      { settings with config := { settings.config with baudrate := UInt32.ofNat rate } }
  | .dog seconds =>
      { settings with config := { settings.config with watchDog := UInt8.ofInt seconds } }
  | .sled shown =>
      { settings with
        normalModeLedOff := decide (shown = 0)
        config := { settings.config with sledOff := decide (shown = 0) } }
  | .stateInfo subscribed =>
      { settings with config := { settings.config with stateInfo := UInt8.ofInt subscribed } }
  | .crc enabled =>
      { settings with
        crcEnable := decide (enabled ≠ 0)
        config := { settings.config with crcEnable := decide (enabled ≠ 0) } }
  | .tmrMsg told =>
      { settings with
        tmrMsgFlag := decide (told ≠ 0)
        config := { settings.config with timerSync := decide (told ≠ 0) } }

/-- The configuration is saved, and a timer goes with some of the settings. -/
def Setting.effects (config : TcConfig) : Setting → List CmdEffect
  | .baudrate _ => [.saveConfig config, .disarm .modifyBaudrate, .arm .modifyBaudrate 100 false]
  | .dog seconds =>
      [if seconds = 0 then .disarm .watchDog else .arm .watchDog (1000 * seconds) true,
        .saveConfig config]
  | .stateInfo subscribed =>
      [if subscribed = 0 then .disarm .queryState else .arm .queryState 1000 true,
        .saveConfig config]
  | .sled _ => [.saveConfig config]
  | .crc _ => [.saveConfig config]
  | .tmrMsg _ => [.saveConfig config]

def isSettingTimer : TcTimer → Bool
  | .modifyBaudrate => true
  | .watchDog => true
  | .queryState => true
  | .enterApMode => false
  | .enterEsptouchMode => false

def isSetting : CmdEffect → Bool
  | .saveConfig _ => true
  | .arm timer _ _ => isSettingTimer timer
  | .disarm timer => isSettingTimer timer
  | _ => false

def cmdNumber (root : CJsonItem) : Option Int :=
  if root.type ≠ .array ∨ cJSONGetArraySize root ≠ 2 then none
  else ((cJSONGetArrayItem root 1).filter fun item => item.type = .number).map (·.valueint)

def settingNames : List (List UInt8 × (Int → Option Setting)) :=
  [(asciiBytes "baudrate", fun number =>
      if number = 9600 ∨ number = 115200 then some (.baudrate number.toNat) else none),
    (asciiBytes "dog", fun number =>
      if 0 ≤ number ∧ number ≤ 60 then some (.dog number.toNat) else none),
    (asciiBytes "sled", fun number => some (.sled number)),
    (asciiBytes "stateInfo", fun number => some (.stateInfo number)),
    (asciiBytes "crc", fun number => some (.crc number)),
    (asciiBytes "tmrMsg", fun number => some (.tmrMsg number))]

def settingNamed (name : List UInt8) (root : CJsonItem) : Option Setting :=
  ((settingNames.find? fun entry => entry.1 = name).bind fun entry =>
    (cmdNumber root).bind entry.2)

def settingOf (root : CJsonItem) : Option Setting :=
  ((cJSONGetArrayItem root 0).bind (·.valuestring)).bind fun valuestring =>
    settingNamed (cString valuestring) root

end Settings

section Commands

def settingsOf (state : CmdState) : Settings where
  config := state.tcConfig
  normalModeLedOff := state.normalModeLedOff
  crcEnable := state.crcEnable
  tmrMsgFlag := state.tmrMsgFlag

/-- The settings and effects of a command that sets something, or nothing. -/
structure Sets (state : CmdState) (setting : Option Setting) (next : CmdState) : Prop where
  settings : settingsOf next = setting.elim (settingsOf state) (settingsOf state).set
  effects : ∃ effects, next.log = state.log ++ effects ∧
    effects.filter isSetting = setting.elim [] (·.effects next.tcConfig)

def SetsBy (state : CmdState) (setting : Option Setting) (run : CmdRun) : Prop :=
  ∀ result, run = .ok result → Sets state setting result.2

variable {world : TimerWorld} {reads : CmdReads} {state next : CmdState} {root : CJsonItem}
  {run : CmdRun} {setting : Option Setting}

theorem sets_refl : Sets state none state :=
  ⟨rfl, [], (List.append_nil _).symm, rfl⟩

theorem sets_log (sets : Sets state setting next) {more : List CmdEffect}
    (other : more.filter isSetting = []) :
    Sets state setting { next with log := next.log ++ more } := by
  obtain ⟨effects, logged, filtered⟩ := sets.effects
  refine ⟨sets.settings, effects ++ more, ?_, ?_⟩
  · rw [logged, List.append_assoc]
  · rw [List.filter_append, filtered, other, List.append_nil]

/-- Nothing but the fields that have no settings. -/
theorem sets_none (same : settingsOf next = settingsOf state) {more : List CmdEffect}
    (logged : next.log = state.log ++ more) (other : more.filter isSetting = []) :
    Sets state none next :=
  ⟨same, more, logged, other⟩

theorem sets_by_refuse {answer : U2artError} (sets : Sets state setting next) :
    SetsBy state setting (refuse next answer) := by
  intro result done
  cases done
  exact sets

theorem sets_by_send_text {text : List UInt8} (sets : Sets state setting next) :
    SetsBy state setting (.ok (sendText next text)) := by
  intro result done
  cases done
  unfold sendText
  split
  · exact sets
  · exact sets_log sets rfl

theorem sets_by_ite {condition : Prop} [Decidable condition] {left right : CmdRun}
    (first : condition → SetsBy state setting left)
    (second : ¬ condition → SetsBy state setting right) :
    SetsBy state setting (if condition then left else right) := by
  split
  · rename_i holds
    exact first holds
  · rename_i fails
    exact second fails

theorem sets_by_without_args (sets : SetsBy state none run) :
    SetsBy state none (withoutArgs state root run) :=
  sets_by_ite (fun _ => sets_by_refuse sets_refl) fun _ => sets

/-- A command with a number sets what it sets for that number. -/
theorem sets_by_with_number {run : Int → CmdRun} {named : Int → Option Setting}
    (sets : ∀ number, SetsBy state (named number) (run number)) :
    SetsBy state ((cmdNumber root).bind named) (withNumber state root run) := by
  unfold withNumber cmdNumber
  split
  · exact sets_by_refuse sets_refl
  · cases cJSONGetArrayItem root 1 with
    | none => exact sets_by_refuse sets_refl
    | some item =>
        dsimp only
        by_cases number : item.type = .number
        · rw [if_neg (not_not_intro number), Option.filter_some, if_pos (by simpa using number)]
          exact sets item.valueint
        · rw [if_pos number, Option.filter_some, if_neg (by simpa using number)]
          exact sets_by_refuse sets_refl

theorem sets_by_number_none {run : Int → CmdRun} (sets : ∀ number, SetsBy state none (run number)) :
    SetsBy state none (withNumber state root run) := by
  have named : SetsBy state ((cmdNumber root).bind fun _ => none) (withNumber state root run) :=
    sets_by_with_number sets
  cases number : cmdNumber root with
  | none =>
      rw [number] at named
      exact named
  | some value =>
      rw [number] at named
      exact named

theorem sets_by_buffer {size : Nat} {parts : List (List UInt8)} :
    SetsBy state none (sendBuffer state size parts) := by
  intro result done
  rcases bind_ok_iff.1 done with ⟨temp, -, last⟩
  exact sets_by_send_text sets_refl result last

theorem sets_by_mac {size : Nat} {mac : Option (Fin 6 → UInt8)} :
    SetsBy state none (sendMac state size mac) := by
  intro result done
  rcases bind_ok_iff.1 done with ⟨temp, -, last⟩
  split at last
  · exact sets_by_send_text sets_refl result last
  · exact sets_by_refuse sets_refl result last

/-- A configuration that is saved behind some effects. -/
theorem sets_by_save {setting : Setting} {front : List CmdEffect}
    (settings : settingsOf next = (settingsOf state).set setting)
    (logged : next.log = state.log ++ front)
    (effects : front.filter isSetting = setting.effects next.tcConfig) :
    SetsBy state (some setting) (.ok (sendText next retZero)) :=
  sets_by_send_text ⟨settings, front, logged, effects⟩

theorem sets_by_baud : SetsBy state (settingNamed (asciiBytes "baudrate") root)
    (processBaudCmd state root) := by
  apply sets_by_with_number
  intro number
  dsimp only
  by_cases known : number = 9600 ∨ number = 115200
  · rw [if_pos known, if_neg (by omega)]
    intro result done
    rw [send_ret_zero, if_pos rfl] at done
    cases done
    refine ⟨rfl, [.saveConfig _, .frame (.data retZero), .disarm .modifyBaudrate,
      .arm .modifyBaudrate 100 false], ?_, rfl⟩
    simp only [CmdState.emit, CmdState.saveConfig, List.append_assoc, List.cons_append,
      List.nil_append]
  · rw [if_neg known, if_pos (by omega)]
    exact sets_by_refuse sets_refl

theorem sets_by_dog : SetsBy state (settingNamed (asciiBytes "dog") root)
    (processDogCmd state root) := by
  apply sets_by_with_number
  intro number
  dsimp only
  by_cases known : 0 ≤ number ∧ number ≤ 60
  · obtain ⟨seconds, rfl⟩ := Int.eq_ofNat_of_zero_le known.1
    rw [if_pos known, if_neg (by omega), Int.toNat_natCast]
    by_cases off : seconds = 0
    · subst off
      exact sets_by_save rfl (List.append_assoc ..) rfl
    · rw [if_neg (by omega)]
      apply sets_by_save rfl (List.append_assoc ..)
      rw [Setting.effects, if_neg off]
      rfl
  · rw [if_neg known, if_pos (by omega)]
    exact sets_by_refuse sets_refl

theorem sets_by_sled : SetsBy state (settingNamed (asciiBytes "sled") root)
    (processSledCmd state root) :=
  sets_by_with_number fun _ => sets_by_save rfl rfl rfl

theorem sets_by_state_info : SetsBy state (settingNamed (asciiBytes "stateInfo") root)
    (processStateInfoCmd state root) := by
  apply sets_by_with_number
  intro number
  dsimp only
  by_cases off : number = 0
  · subst off
    exact sets_by_save rfl (List.append_assoc ..) rfl
  · rw [if_neg off]
    apply sets_by_save rfl (List.append_assoc ..)
    rw [Setting.effects, if_neg off]
    rfl

theorem sets_by_crc : SetsBy state (settingNamed (asciiBytes "crc") root)
    (processCrcCmd state root) := by
  apply sets_by_with_number
  intro number result done
  dsimp only at done
  rw [send_ret_zero, if_pos rfl] at done
  cases done
  exact ⟨rfl, [.frame (.data retZero), .saveConfig _], List.append_assoc .., rfl⟩

theorem sets_by_tmr_msg : SetsBy state (settingNamed (asciiBytes "tmrMsg") root)
    (processTmrMsgCmd state root) :=
  sets_by_with_number fun _ => sets_by_save rfl rfl rfl

theorem deal_setting_mode_other {mode : Int} {effects : List CmdEffect}
    (dealt : dealSettingMode reads mode = .ok effects) : effects.filter isSetting = [] := by
  unfold dealSettingMode at dealt
  split_ifs at dealt <;> cases dealt <;> rfl

theorem sets_by_setting : SetsBy state none (processSettingCmd reads state root) := by
  apply sets_by_number_none
  intro number
  cases dealt : dealSettingMode reads number with
  | error answer => exact sets_by_refuse sets_refl
  | ok effects => exact sets_by_send_text (sets_none rfl rfl (deal_setting_mode_other dealt))

theorem packages_other (package : Option CJsonItem) :
    (package.toList.map CmdEffect.package).filter isSetting = [] := by
  cases package <;> rfl

theorem sets_by_forwarded {result : FlowControl.RequestResult} :
    SetsBy state none (forwarded state result) := by
  intro done ended
  cases ended
  refine sets_none rfl (List.append_assoc ..) ?_
  rw [List.filter_append, packages_other, List.nil_append]
  cases result.ret <;> rfl

theorem sets_by_respond : SetsBy state none (processRespondCmd reads state root) := by
  unfold processRespondCmd
  generalize TcQueue.processRespondCmd state.tc _ = result
  have sets : Sets state none { state with
      tc := result.2
      log := state.log ++ (respondPackages reads root).toList.map CmdEffect.package } :=
    sets_none rfl rfl (packages_other _)
  dsimp only
  split
  · exact sets_by_send_text sets
  · exact sets_by_refuse sets
  · exact sets_by_refuse sets
  · exact sets_by_refuse sets

theorem sets_by_ret : SetsBy state none (processRetCmd state root) := by
  apply sets_by_ite
  · intro _ result done
    cases done
    exact sets_none rfl (List.append_nil _).symm rfl
  · intro _
    exact sets_by_refuse (sets_none rfl (List.append_nil _).symm rfl)

theorem sets_by_update_timers {cjsonTimer : CJsonItem} :
    SetsBy state none (updateTimers world state cjsonTimer) := by
  intro result done
  rcases bind_ok_iff.1 done with ⟨updated, -, last⟩
  cases last
  exact sets_none rfl (List.append_assoc ..) rfl

theorem sets_by_with_param :
    SetsBy state none (processTimerUpdateWithParamCmd world state root) := by
  apply sets_by_ite fun _ => sets_by_refuse sets_refl
  intro _
  split
  · split
    · exact sets_by_refuse sets_refl
    · exact sets_by_update_timers
  · exact sets_by_refuse sets_refl

theorem sets_by_timer_update :
    SetsBy state none (processTimerUpdateCmd world reads state root) := by
  apply sets_by_ite fun _ => sets_by_refuse sets_refl
  intro _
  split
  · apply sets_by_ite fun _ => sets_by_refuse sets_refl
    intro _
    split
    · exact sets_by_refuse sets_refl
    · exact sets_by_update_timers
  · exact sets_by_refuse sets_refl

theorem sets_by_query : SetsBy state none (processTimerQueryDevCmd world state root) := by
  apply sets_by_ite fun _ => sets_by_refuse sets_refl
  intro _
  split
  · intro result done
    rcases bind_ok_iff.1 done with ⟨reply, -, last⟩
    cases last
    exact sets_none rfl rfl rfl
  · exact sets_by_refuse sets_refl

/-- A command that is none of the six. -/
theorem sets_by_other {name : List UInt8}
    (other : settingNames.find? (fun entry => entry.1 = name) = none)
    (sets : SetsBy state none run) : SetsBy state (settingNamed name root) run := by
  rw [settingNamed, other]
  exact sets

theorem entry_sets {name : List UInt8} {action : CJsonItem → CmdRun}
    (listed : (name, action) ∈ tcCmd world reads state) :
    SetsBy state (settingNamed name root) (action root) := by
  simp only [tcCmd, List.mem_cons, List.not_mem_nil, or_false, Prod.mk.injEq] at listed
  rcases listed with ⟨rfl, rfl⟩ | ⟨rfl, rfl⟩ | ⟨rfl, rfl⟩ | ⟨rfl, rfl⟩ | ⟨rfl, rfl⟩ | ⟨rfl, rfl⟩ |
    ⟨rfl, rfl⟩ | ⟨rfl, rfl⟩ | ⟨rfl, rfl⟩ | ⟨rfl, rfl⟩ | ⟨rfl, rfl⟩ | ⟨rfl, rfl⟩ | ⟨rfl, rfl⟩ |
    ⟨rfl, rfl⟩ | ⟨rfl, rfl⟩ | ⟨rfl, rfl⟩ | ⟨rfl, rfl⟩ | ⟨rfl, rfl⟩ | ⟨rfl, rfl⟩ | ⟨rfl, rfl⟩ |
    ⟨rfl, rfl⟩ | ⟨rfl, rfl⟩ | ⟨rfl, rfl⟩ | ⟨rfl, rfl⟩ | ⟨rfl, rfl⟩ | ⟨rfl, rfl⟩ | ⟨rfl, rfl⟩ |
    ⟨rfl, rfl⟩
  · exact sets_by_other (by decide) (sets_by_without_args (sets_by_send_text sets_refl))
  · exact sets_by_baud
  · exact sets_by_dog
  · exact sets_by_sled
  · exact sets_by_state_info
  · exact sets_by_other (by decide) (sets_by_without_args sets_by_buffer)
  · apply sets_by_other (by decide)
    exact sets_by_ite (fun _ => sets_by_refuse sets_refl)
      fun _ => sets_by_without_args sets_by_buffer
  · exact sets_by_other (by decide) (sets_by_without_args sets_by_buffer)
  · exact sets_by_other (by decide) sets_by_setting
  · exact sets_by_other (by decide) (sets_by_without_args sets_by_buffer)
  · exact sets_by_other (by decide) (sets_by_without_args sets_by_buffer)
  · exact sets_by_other (by decide) (sets_by_without_args sets_by_mac)
  · exact sets_by_other (by decide) (sets_by_without_args sets_by_mac)
  · exact sets_by_other (by decide) sets_by_forwarded
  · exact sets_by_other (by decide) sets_by_respond
  · exact sets_by_other (by decide) sets_by_forwarded
  · exact sets_by_other (by decide) sets_by_with_param
  · exact sets_by_other (by decide) sets_by_with_param
  · exact sets_by_other (by decide) sets_by_with_param
  · exact sets_by_other (by decide) sets_by_timer_update
  · exact sets_by_other (by decide) sets_by_with_param
  · exact sets_by_other (by decide) sets_by_timer_update
  · exact sets_by_other (by decide) sets_by_with_param
  · exact sets_by_other (by decide) sets_by_timer_update
  · exact sets_by_other (by decide) sets_by_query
  · exact sets_by_crc
  · exact sets_by_tmr_msg
  · exact sets_by_other (by decide) sets_by_ret

theorem setting_names_listed {entry : List UInt8 × (Int → Option Setting)}
    (member : entry ∈ settingNames) :
    ∃ action, (entry.1, action) ∈ tcCmd world reads state := by
  simp only [settingNames, List.mem_cons, List.not_mem_nil, or_false] at member
  rcases member with rfl | rfl | rfl | rfl | rfl | rfl
  · exact ⟨_, List.mem_of_getElem? (i := 1) rfl⟩
  · exact ⟨_, List.mem_of_getElem? (i := 2) rfl⟩
  · exact ⟨_, List.mem_of_getElem? (i := 3) rfl⟩
  · exact ⟨_, List.mem_of_getElem? (i := 4) rfl⟩
  · exact ⟨_, List.mem_of_getElem? (i := 25) rfl⟩
  · exact ⟨_, List.mem_of_getElem? (i := 26) rfl⟩

theorem unknown_name {name : List UInt8}
    (missing : (tcCmd world reads state).find? (fun entry => entry.1 = name) = none) :
    settingNames.find? (fun entry => entry.1 = name) = none := by
  rw [List.find?_eq_none] at missing ⊢
  intro entry member
  obtain ⟨action, listed⟩ := setting_names_listed member
  exact missing _ listed

theorem setting_named_numberless {name : List UInt8} (numberless : cmdNumber root = none) :
    settingNamed name root = none := by
  rw [settingNamed, numberless]
  cases settingNames.find? fun entry => entry.1 = name <;> rfl

/-- A command sets what its name and its number say, and nothing else. -/
theorem process_cmd_sets : SetsBy state (settingOf root) (processCmd world reads state root) := by
  unfold processCmd settingOf
  by_cases array : root.type = .array
  · rw [if_neg (not_not_intro array)]
    cases cJSONGetArrayItem root 0 with
    | none => exact sets_by_refuse sets_refl
    | some cmd =>
        intro result done
        rcases bind_ok_iff.1 done with ⟨valuestring, string, later⟩
        rw [Option.bind_some, deref_ok_iff.1 string, Option.bind_some]
        split at later
        · rename_i entry found
          have named : entry.1 = cString valuestring := by simpa using List.find?_some found
          rw [← named]
          exact entry_sets (List.mem_of_find?_eq_some found) result later
        · rename_i missing
          exact sets_by_other (unknown_name missing) (sets_by_refuse sets_refl) result later
  · rw [if_pos array]
    have numberless : cmdNumber root = none := if_pos (.inl array)
    cases (cJSONGetArrayItem root 0).bind (·.valuestring) with
    | none => exact sets_by_refuse sets_refl
    | some valuestring =>
        rw [Option.bind_some, setting_named_numberless numberless]
        exact sets_by_refuse sets_refl

theorem serve_cmd_sets (served : serveCmd world reads state root = .ok next) :
    Sets state (settingOf root) next := by
  rcases bind_ok_iff.1 served with ⟨result, processed, last⟩
  cases last
  have sets := process_cmd_sets result processed
  unfold processErrorCmd
  split
  · exact sets_log sets rfl
  · exact sets

end Commands

end IotgoFirmware.Mcu.McuSettings
