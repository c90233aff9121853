import IotgoFirmware.Mcu.McuRestarts

/-!
# The watch dog of the MCU

A `dog` command with a number of seconds starts the watch dog anew. If no other comes in time,
the line of the MCU is pulled down for half a second, and the watch dog is off until the MCU
turns it on again. Nothing else that the MCU sends or that the firmware does moves the line.
-/

namespace IotgoFirmware.Mcu.WatchDog

open IotgoFirmware.Library.CJsonItems
open IotgoFirmware.Library.CStrings
open IotgoFirmware.Library.DurableStores
open IotgoFirmware.Library.NorFlash
open IotgoFirmware.Library.StepRuns
open IotgoFirmware.Mcu.CmdDispatch
open IotgoFirmware.Mcu.CmdHandlers
open IotgoFirmware.Mcu.McuRestarts
open IotgoFirmware.Mcu.McuSettings
open IotgoFirmware.Send.SendJson (IoTgoDeviceMode)
open IotgoFirmware.Timers.TimerProc

set_option autoImplicit false

section Phases

/-- The program goes on, and the MCU does not feed the watch dog. -/
def Unfed : McuEvent → Prop
  | .work (.command _ _ root) => ∀ seconds, settingOf root ≠ some (.dog seconds)
  | .work _ => True
  | .cut _ _ => False
  | .boot _ => False

def isMillisecond : McuEvent → Bool
  | .work (.millisecond _) => true
  | _ => false

def milliseconds (events : List McuEvent) : Nat :=
  events.countP isMillisecond

/-- The watch dog and the line some milliseconds after the watch dog was fed. -/
inductive Phase (seconds passed : Nat) (ram : McuRam) : Prop where
  | counting (soon : passed < 1000 * seconds) (up : ram.appHighCtrl = none)
      (armed : ram.watchDog = some (1000 * seconds - passed, 1000 * seconds))
  | low (late : 1000 * seconds ≤ passed) (soon : passed < 1000 * seconds + lowWidth)
      (down : ram.appHighCtrl = some (1000 * seconds + lowWidth - passed))
  | ended (late : 1000 * seconds + lowWidth ≤ passed) (up : ram.appHighCtrl = none)
      (off : ram.watchDog = none)

variable {ram next : McuRam} {seconds passed : Nat}

/-- The timers of the watch dog and of the line are as they were. -/
def SameLine (ram next : McuRam) : Prop :=
  next.appHighCtrl = ram.appHighCtrl ∧ next.watchDog = ram.watchDog

theorem phase_same (same : SameLine ram next) (phase : Phase seconds passed ram) :
    Phase seconds passed next := by
  cases phase with
  | counting soon up armed => exact .counting soon (same.1.trans up) (same.2.trans armed)
  | low late soon down => exact .low late soon (same.1.trans down)
  | ended late up off => exact .ended late (same.1.trans up) (same.2.trans off)

theorem unfed_command {world : TimerWorld} {reads : CmdReads} {root : CJsonItem} {cmd : CmdState}
    (unfed : ∀ seconds, settingOf root ≠ some (.dog seconds))
    (served : serveCmd world reads ram.cmd root = .ok cmd) :
    SameLine ram (commandDone ram cmd).1 := by
  rw [command_done (serve_cmd_sets served)]
  cases set : settingOf root with
  | none => exact ⟨rfl, rfl⟩
  | some setting =>
      cases setting with
      | dog seconds => exact absurd set (unfed seconds)
      | baudrate rate => exact ⟨rfl, rfl⟩
      | sled shown => exact ⟨rfl, rfl⟩
      | crc enabled => exact ⟨rfl, rfl⟩
      | tmrMsg told => exact ⟨rfl, rfl⟩
      | stateInfo subscribed =>
          by_cases off : subscribed = 0
          · subst off
            exact ⟨rfl, rfl⟩
          · simp only [Option.elim_some, Setting.effects, if_neg off]
            exact ⟨rfl, rfl⟩

theorem elapsed_line (mode : IoTgoDeviceMode) :
    SameLine (lineElapsed ram).1 (elapsed ram mode).1 := by
  have queried (ram : McuRam) : SameLine ram (queryElapsed ram mode) := by
    unfold queryElapsed queryState
    split
    · exact ⟨rfl, rfl⟩
    · split
      · dsimp only
        split <;> exact ⟨rfl, rfl⟩
      · exact ⟨rfl, rfl⟩
  have modified (ram : McuRam) : SameLine ram (modifyElapsed ram) := by
    unfold modifyElapsed
    split
    · exact ⟨rfl, rfl⟩
    · split <;> exact ⟨rfl, rfl⟩
  have first := modified (lineElapsed ram).1
  have second := queried (modifyElapsed (lineElapsed ram).1)
  exact ⟨second.1.trans first.1, second.2.trans first.2⟩

theorem phase_elapsed {hardware : Hardware Bool Flash} (held : InForce ram hardware)
    (mode : IoTgoDeviceMode) (phase : Phase seconds passed ram) :
    Phase seconds (passed + 1) (elapsed ram mode).1 := by
  apply phase_same (elapsed_line mode)
  have line := line_case held
  generalize lineElapsed ram = after at line ⊢
  cases phase with
  | counting soon up armed =>
      cases line with
      | idle _ off => cases armed.symm.trans off
      | @counting rest period _ counted =>
          have timer := Option.some.inj (armed.symm.trans counted)
          have left := congrArg Prod.fst timer
          have same := congrArg Prod.snd timer
          dsimp only at left same
          refine .counting (by omega) up ?_
          rw [same, show rest + 1 = 1000 * seconds - (passed + 1) by omega, same]
      | due _ counted =>
          have left := congrArg Prod.fst (Option.some.inj (armed.symm.trans counted))
          dsimp only at left
          refine .low (by omega) (by unfold lowWidth; omega) (congrArg some ?_)
          omega
      | low down => cases up.symm.trans down
      | ended down => cases up.symm.trans down
  | low late soon low =>
      cases line with
      | idle up => cases up.symm.trans low
      | counting up => cases up.symm.trans low
      | due up => cases up.symm.trans low
      | low down =>
          have left := Option.some.inj (low.symm.trans down)
          refine .low (by omega) (by omega) (congrArg some ?_)
          omega
      | ended down =>
          have left := Option.some.inj (low.symm.trans down)
          exact .ended (by omega) rfl rfl
  | ended late up off =>
      cases line with
      | idle => exact .ended (Nat.le_succ_of_le late) up off
      | counting _ armed => cases off.symm.trans armed
      | due _ armed => cases off.symm.trans armed
      | low down => cases up.symm.trans down
      | ended down => cases up.symm.trans down

theorem phase_work {hardware : Hardware Bool Flash} {work : McuWork}
    {done : McuRam × List McuAction} (held : InForce ram hardware)
    (unfed : Unfed (.work work)) (ran : work.run ram = .ok done)
    (phase : Phase seconds passed ram) :
    Phase seconds (passed + milliseconds [.work work]) done.1 := by
  cases work with
  | command world reads root =>
      obtain ⟨cmd, served, rfl⟩ := command_ran ran
      exact phase_same (unfed_command unfed served) phase
  | millisecond mode =>
      cases ran
      exact phase_elapsed held mode phase
  | other cmd =>
      cases ran
      have same : SameLine ram { ram with cmd := cmd } := ⟨rfl, rfl⟩
      exact phase_same same phase

theorem phase_run {device final : McuDevice} {events : List McuEvent} (up : device.ram = some ram)
    (held : InForce ram device.hardware)
    (unfed : ∀ event ∈ events, Unfed event) (run : Run McuStep device events final)
    (phase : Phase seconds passed ram) :
    ∃ last, final.ram = some last ∧ InForce last final.hardware ∧
      Phase seconds (passed + milliseconds events) last := by
  induction run generalizing ram passed with
  | nil => exact ⟨ram, up, held, phase⟩
  | @cons _ _ _ event later step _ ih =>
      have here := unfed event List.mem_cons_self
      cases event with
      | cut work level => exact here.elim
      | boot fresh => exact here.elim
      | work work =>
          obtain ⟨before, done, running, allowed, ran, rfl⟩ := step
          cases running.symm.trans up
          obtain ⟨last, running, held, phase⟩ := ih rfl (in_force_work held allowed ran)
            (fun event member => unfed event (List.mem_cons_of_mem _ member))
            (phase_work held here ran phase)
          refine ⟨last, running, held, ?_⟩
          rw [Nat.add_assoc, milliseconds, milliseconds, ← List.countP_append] at phase
          exact phase

end Phases

section Feeding

variable {ram : McuRam} {seconds : Nat}

theorem phase_fed {hardware : Hardware Bool Flash} {world : TimerWorld} {reads : CmdReads}
    {root : CJsonItem} {cmd : CmdState} (held : InForce ram hardware)
    (high : hardware.output = true) (fed : settingOf root = some (.dog seconds))
    (positive : 0 < seconds) (served : serveCmd world reads ram.cmd root = .ok cmd) :
    Phase seconds 0 (commandDone ram cmd).1 := by
  have up : ram.appHighCtrl = none := by
    rw [held.line] at high
    exact Option.isNone_iff_eq_none.1 high
  rw [command_done (serve_cmd_sets served), fed]
  simp only [Option.elim_some, Setting.effects, if_neg (Nat.ne_of_gt positive)]
  exact .counting (by omega) up rfl

/-- After a `dog` command with some seconds the line stays high for these seconds, whatever else
goes on; if no other `dog` command comes by then, the line is low for half a second, and then it
is high and the watch dog is off, also for the next start. -/
theorem watch_dog_once {device before after final : McuDevice} {events later : List McuEvent}
    {world : TimerWorld} {reads : CmdReads} {root : CJsonItem} (off : device.ram = none)
    (run : Run McuStep device events before) (high : before.hardware.output = true)
    (fed : settingOf root = some (.dog seconds)) (positive : 0 < seconds)
    (feeds : McuStep before (.work (.command world reads root)) after)
    (unfed : ∀ event ∈ later, Unfed event) (rest : Run McuStep after later final) :
    (final.hardware.output = false ↔
        1000 * seconds ≤ milliseconds later ∧
          milliseconds later < 1000 * seconds + lowWidth) ∧
      (1000 * seconds + lowWidth ≤ milliseconds later →
        ∃ ram, final.ram = some ram ∧ ram.watchDog = none ∧ ram.cmd.tcConfig.watchDog = 0 ∧
          (checkedConfig (tcStore.load final.hardware.chip)).watchDog = 0) := by
  obtain ⟨ram, done, up, allowed, ran, rfl⟩ := feeds
  have held := in_force_run off run up
  have forced := in_force_work held allowed ran
  obtain ⟨cmd, served, rfl⟩ := command_ran ran
  obtain ⟨last, running, inForce, phase⟩ := phase_run rfl forced
    unfed rest (phase_fed held high fed positive served)
  rw [Nat.zero_add] at phase
  have line := inForce.line
  cases phase with
  | counting soon up armed =>
      rw [up] at line
      refine ⟨⟨fun low => ?_, fun late => absurd soon (Nat.not_lt.2 late.1)⟩,
        fun late => absurd soon (by omega)⟩
      rw [line] at low
      cases low
  | low late soon down =>
      rw [down] at line
      exact ⟨⟨fun _ => ⟨late, soon⟩, fun _ => line⟩, fun ended => absurd soon (Nat.not_lt.2 ended)⟩
  | ended late up idle =>
      rw [up] at line
      refine ⟨⟨fun low => ?_, fun soon => absurd soon.2 (Nat.not_lt.2 late)⟩, fun _ => ?_⟩
      · rw [line] at low
        cases low
      · have zero := inForce.dogOff.1 idle
        refine ⟨last, running, idle, zero, ?_⟩
        rw [inForce.stored]
        exact zero

def quiet (count : Nat) : List McuEvent :=
  List.replicate count (.work (.millisecond .workNormal))

theorem milliseconds_quiet (count : Nat) : milliseconds (quiet count) = count :=
  (List.countP_replicate).trans (if_pos rfl)

theorem quiet_run (count : Nat) {device : McuDevice} {ram : McuRam} (up : device.ram = some ram) :
    ∃ final, Run McuStep device (quiet count) final := by
  induction count generalizing device ram with
  | zero => exact ⟨device, .nil⟩
  | succ count ih =>
      obtain ⟨final, later⟩ := @ih (ranTo device (elapsed ram .workNormal)) _ rfl
      exact ⟨final, .cons ⟨ram, _, up, trivial, rfl, rfl⟩ later⟩

theorem quiet_unfed (count : Nat) : ∀ event ∈ quiet count, Unfed event := by
  intro event member
  rw [List.eq_of_mem_replicate member]
  trivial

/-- The dog is fed for five seconds; 200 ms behind them the line is low, and after 500 ms it is
high again and the watch dog off. -/
theorem watch_dog_once_pulse :
    ∃ low ended : McuDevice, low.hardware.output = false ∧ ended.hardware.output = true ∧
      ∃ ram, ended.ram = some ram ∧ ram.watchDog = none := by
  let ram := (bootOf idleCmdState erasedDevice).1
  obtain ⟨next, served⟩ : ∃ next, serveCmd blankWorld someReads ram.cmd dogFive = .ok next :=
    ⟨_, rfl⟩
  have ran : (McuWork.command blankWorld someReads dogFive).run ram =
      .ok (commandDone ram next) := by
    rw [McuWork.run, served]
    rfl
  let before := ranTo erasedDevice (bootOf idleCmdState erasedDevice)
  have run : Run McuStep erasedDevice [.boot idleCmdState] before := .cons ⟨rfl, rfl⟩ .nil
  have feeds : McuStep before (.work (.command blankWorld someReads dogFive))
      (ranTo before (commandDone ram next)) := ⟨ram, _, rfl, trivial, ran, rfl⟩
  obtain ⟨low, soon⟩ := @quiet_run 5200 (ranTo before (commandDone ram next)) _ rfl
  obtain ⟨ended, late⟩ := @quiet_run 5500 (ranTo before (commandDone ram next)) _ rfl
  have pulse := watch_dog_once rfl run rfl rfl (by decide) feeds (quiet_unfed 5200) soon
  have after := watch_dog_once rfl run rfl rfl (by decide) feeds (quiet_unfed 5500) late
  rw [milliseconds_quiet] at pulse after
  obtain ⟨last, running, idle, -⟩ := after.2 (by decide)
  refine ⟨low, ended, pulse.1.2 (by decide), ?_, last, running, idle⟩
  apply Bool.eq_true_of_not_eq_false
  exact fun down => absurd (after.1.1 down).2 (by decide)

end Feeding

end IotgoFirmware.Mcu.WatchDog
