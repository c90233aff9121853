import IotgoFirmware.Storage.FlashLayout

/-!
# What the stores load while the others write

The saves of a store tell what it loads, whatever is saved or downloaded between them and
wherever the power goes; the image that runs is never touched, and a chip that has been bound to
its flash stays the only one that starts from it.
-/

namespace IotgoFirmware.Storage.FlashSharing

open IotgoFirmware.Library.NorFlash
open IotgoFirmware.Library.SharedFlash
open IotgoFirmware.Library.StepRuns
open IotgoFirmware.Library.TwoSlotStore
open IotgoFirmware.Storage.FlashCipher
open IotgoFirmware.Storage.FlashLayout
open IotgoFirmware.Storage.FlashParam
open IotgoFirmware.Timers.TimerFlash
open IotgoFirmware.Timers.TimerLayout
open IotgoFirmware.Upgrade.UpgradeRegion
open IotgoFirmware.Upgrade.UpgradeSession

set_option autoImplicit false

section Saves

variable {len : Nat}

def paramSave : FlashEvent len → Option (SaveEvent (Memory flashParamSize))
  | .param save => some save
  | _ => none

def configSave : FlashEvent len → Option (SaveEvent (Memory len))
  | .config save => some save
  | _ => none

/-- The timers are loaded behind an erase as behind a save of no timers. -/
def timersSave : FlashEvent len → Option (SaveEvent TimerTable)
  | .timers save => some save
  | .timersErase _ => some (.saved .zero)
  | _ => none

def TimersErased (event : FlashEvent len) : Prop :=
  ∀ save, event = .timersErase save → save.isCut = false

def writesCipher : FlashEvent len → Bool
  | .cipher _ => true
  | _ => false

end Saves

section Steps

variable {len : Nat} {board : Board} {before after : Tally} {event : FlashEvent len}

/-- A step of a device whose downloads store few answers. -/
structure GoodStep (board : Board) (before : Tally) (event : FlashEvent len) (after : Tally) :
    Prop where
  indexed : Indexed board before
  few : StoresFew before event
  step : FlashStep board before event after

theorem good_run {flash : Flash} {events : List (FlashEvent len)}
    (met : Meets (FlashStep board) StoresFew (started flash) events)
    (run : Run (FlashStep board) (started flash) events after) :
    Run (GoodStep board) (started flash) events after := by
  have indexed := run_of_met (Indexed board)
    (fun _ _ _ indexed _ step => flash_step_indexed indexed step)
    (started_indexed board flash) met run
  apply run_mono _ indexed
  rintro before event after ⟨indexed, few, step⟩
  exact ⟨indexed, few, step⟩

theorem step_agree {sectors : List Nat} (good : GoodStep board before event after)
    (apart : ∀ sector ∈ sectors, sector ∉ eventSectors board.currentBin event) :
    Agree sectors before.state.flash after.state.flash :=
  fun address inside => step_stays good.indexed good.few good.step address (apart _ inside)

theorem others_agree {store : Store} {sectors : List Nat}
    (own : ∀ sector ∈ sectors, sector ∈ store.sectors) (other : storeOf event ≠ some store)
    (good : GoodStep board before event after) :
    Agree sectors before.state.flash after.state.flash :=
  step_agree good fun sector inside => event_apart other sector (own sector inside)

theorem saves_step {Value Seen : Type} {ops : Value → Flash → List FlashOp}
    {store : SlotPair Value Seen} {save : SaveEvent Value}
    (same : ∀ value flash, ops value flash = store.save value flash)
    (step : Saves ops before save after) :
    ToldBy [save] store.seen (store.load before.state.flash) (store.load after.state.flash) := by
  apply told_by_step
  cases save with
  | saved value =>
      rw [show after = withFlash before _ from step, same]
      rfl
  | cut value =>
      obtain ⟨left, cut, rfl⟩ := step
      rw [same] at cut
      exact cut

theorem param_other (picked : paramSave event = none) : storeOf event ≠ some .param := by
  cases event with
  | param save => cases picked
  | _ => simp [storeOf]

theorem config_other (picked : configSave event = none) : storeOf event ≠ some .config := by
  cases event with
  | config save => cases picked
  | _ => simp [storeOf]

theorem timers_other (picked : timersSave event = none) : storeOf event ≠ some .timers := by
  cases event with
  | timers save => cases picked
  | timersErase save => cases picked
  | _ => simp [storeOf]

theorem cipher_other (picked : writesCipher event = false) : storeOf event ≠ some .cipher := by
  cases event with
  | cipher save => cases picked
  | _ => simp [storeOf]

theorem param_shares :
    Shares (slots paramStartSec flash_param_short) (fun tally => tally.state.flash) paramSave
      (GoodStep board : Tally → FlashEvent len → Tally → Prop) where
  own before event after save picked good := by
    have step := good.step
    cases event with
    | param own =>
        cases picked
        exact saves_step (save_to_eq paramStartSec flash_param_short) step
    | _ => cases picked
  others before event after picked good := by
    apply others_agree _ (param_other picked) good
    simp [storeSectors, slots, slotSec, Store.sectors]

theorem config_shares (words : 4 ∣ len) (short : len ≤ sectorSize) :
    Shares (slots deviceConfigStartSec short) (fun tally => tally.state.flash) configSave
      (GoodStep board) where
  own before event after save picked good := by
    have step := good.step
    have same : ∀ (param : Memory len) flash, devSaveConfigToFlash param flash =
        (slots deviceConfigStartSec short).save param flash := by
      intro param flash
      rw [devSaveConfigToFlash, config_length_eq words short, save_to_eq _ short]
    cases event with
    | config own =>
        cases picked
        exact saves_step same step
    | _ => cases picked
  others before event after picked good := by
    apply others_agree _ (config_other picked) good
    simp [storeSectors, slots, slotSec, Store.sectors]

/-- What an erase of the timers leaves is no timers. -/
theorem erase_step {save : SaveEvent Unit} (whole : save.isCut = false)
    (step : Saves (fun _ _ => timerEraseOps) before save after) :
    ToldBy [.saved .zero] timerSlots.seen (timerSlots.load before.state.flash)
      (timerSlots.load after.state.flash) := by
  cases save with
  | saved value =>
      have loaded := loaded_erased ⟨.zero, before.state.flash⟩
      refine .inr ⟨.zero, ⟨[], .saved .zero, [], rfl, ?_, rfl⟩, ?_⟩
      · exact fun later member => absurd member List.not_mem_nil
      · rw [show after = withFlash before _ from step, ← loaded_table_eq]
        exact loaded
  | cut value => cases whole

theorem timers_shares :
    Shares timerSlots (fun tally => tally.state.flash) timersSave
      (fun before (event : FlashEvent len) after =>
        GoodStep board before event after ∧ TimersErased event) where
  own before event after save picked good := by
    have step := good.1.step
    cases event with
    | timers own =>
        cases picked
        exact saves_step timer_save_eq step
    | timersErase own =>
        cases picked
        exact erase_step (good.2 own rfl) step
    | _ => cases picked
  others before event after picked good := by
    apply others_agree _ (timers_other picked) good.1
    simp [storeSectors, timerSlots, saveSec, moreSec, Store.sectors]

end Steps

section Runs

variable {len : Nat} {board : Board} {flash : Flash} {events : List (FlashEvent len)}
  {after : Tally}

/-- What each of the stores holds is told by its own saves, whatever the others write and
wherever they are cut; the cipher and the image that runs stay. -/
structure Independent (currentBin : UserBin) (before : Flash) (events : List (FlashEvent len))
    (after : Flash) : Prop where
  param : ToldBy (events.filterMap paramSave) Memory.bytes (iotgoFlashLoadParam before)
    (iotgoFlashLoadParam after)
  config : ToldBy (events.filterMap configSave) Memory.bytes (devLoadConfigFromFlash len before)
    (devLoadConfigFromFlash len after)
  timers : (∀ event ∈ events, TimersErased event) →
    ToldBy (events.filterMap timersSave) some (loadedTable before) (loadedTable after)
  cipher : (∀ event ∈ events, writesCipher event = false) →
    ∀ memory ids, iotgoFlashDecipher memory ids after = iotgoFlashDecipher memory ids before
  running : Agree (runningSectors currentBin) before after

theorem cipher_kept (unwritten : ∀ event ∈ events, writesCipher event = false) {first : Tally}
    (run : Run (GoodStep board) first events after) :
    readCipher after.state.flash = readCipher first.state.flash := by
  have kept : Agree Store.cipher.sectors first.state.flash after.state.flash := by
    apply agree_run _ (run_and_all unwritten run)
    rintro before event after ⟨good, other⟩
    exact others_agree (fun _ => id) (cipher_other other) good
  apply read_cipher_congr
  exact fun address there => kept address (List.mem_singleton.2 there)

/-- In every run whose downloads store few answers the stores are independent. -/
theorem stores_independent (words : 4 ∣ len) (short : len ≤ sectorSize)
    (met : Meets (FlashStep board) StoresFew (started flash) events)
    (run : Run (FlashStep board) (started flash) events after) :
    Independent board.currentBin flash events after.state.flash := by
  have good := good_run met run
  refine ⟨?_, ?_, ?_, ?_, ?_⟩
  · rw [iotgoFlashLoadParam, iotgoFlashLoadParam, load_from_eq _ flash_param_short,
      load_from_eq _ flash_param_short]
    exact shared_load param_shares good
  · rw [devLoadConfigFromFlash, devLoadConfigFromFlash, config_length_eq words short,
      load_from_eq _ short, load_from_eq _ short]
    exact shared_load (config_shares words short) good
  · intro erased
    have told := shared_load timers_shares (run_and_all erased good)
    rw [loaded_table_eq, loaded_table_eq]
    exact told
  · intro unwritten memory ids
    have same := cipher_kept unwritten good
    rw [iotgoFlashDecipher, iotgoFlashDecipher, same]
    rfl
  · apply agree_run _ good
    intro before event after step
    exact step_agree step (running_apart event)

def requestedEvents : List (FlashEvent 4) :=
  [.param (.saved (.zeros flashParamSize)), .upgrade (.request anyUpgrade true),
    .config (.cut (.zeros 4))]

/-- The parameters are saved, an upgrade is asked for, and the power goes in a save of the
configuration. -/
theorem stores_independent_requested :
    ∃ after : Tally,
      Independent firstBoard.currentBin (fun _ => 0xFF) requestedEvents after.state.flash := by
  have met : Meets (FlashStep firstBoard) StoresFew (started fun _ => 0xFF) requestedEvents := by
    refine ⟨trivial, fun _ _ => ⟨?_, fun _ _ => ⟨trivial, fun _ _ => trivial⟩⟩⟩
    exact fun reaches => reaches.elim
  have asked (tally : Tally) (running : tally.state.halted = none) :
      tallyStep firstBoard tally (.request anyUpgrade true)
        ⟨iotgoUpgradeProcessRequest firstBoard tally.state anyUpgrade true, tally.stored⟩ :=
    ⟨⟨running, rfl⟩, rfl⟩
  have run : ∃ after, Run (FlashStep firstBoard) (started fun _ => 0xFF) requestedEvents after :=
    ⟨_, .cons rfl (.cons (asked _ rfl) (.cons ⟨_, .here, rfl⟩ .nil))⟩
  obtain ⟨after, run⟩ := run
  exact ⟨after, stores_independent (by decide) (by decide) met run⟩

/-- A chip that has been bound to its flash finds the cipher in every run behind, and no chip
with another cipher does. -/
theorem cipher_binds {ids : ChipIds} {rand : Nat → UInt8}
    (met : Meets (FlashStep board) StoresFew (started flash)
      (.cipher (.saved (ids, rand)) :: events))
    (unwritten : ∀ event ∈ events, writesCipher event = false)
    (run : Run (FlashStep board) (started flash) (.cipher (.saved (ids, rand)) :: events) after)
    (other : ChipIds) :
    iotgoFlashDecipher true other after.state.flash = true ↔ other.cipher = ids.cipher := by
  have good := good_run met run
  cases good with
  | @cons _ next _ _ _ first later =>
      have kept := cipher_kept unwritten later
      have written : readCipher next.state.flash = ids.cipher := by
        rw [show next = withFlash (started flash) _ from first.step]
        exact read_ciphered ids rand flash
      rw [decipher_iff, kept, written]
      exact eq_comm

/-- The chip of its own and one with another flash, behind a save of the parameters. -/
theorem cipher_binds_restarted :
    ∃ after : Tally,
      iotgoFlashDecipher true ⟨7, 4⟩ after.state.flash = true ∧
        iotgoFlashDecipher true ⟨7, 5⟩ after.state.flash ≠ true := by
  have binds := @cipher_binds 4 firstBoard (fun _ => 0xFF)
    [.param (.saved (.zeros flashParamSize)), .restart] (started _) ⟨7, 4⟩ (fun _ => 0)
    (meets_of_all (by simp [StoresFew])) (by simp [writesCipher])
    (.cons rfl (.cons rfl (.cons rfl .nil)))
  exact ⟨_, (binds ⟨7, 4⟩).2 rfl, fun found => absurd ((binds ⟨7, 5⟩).1 found) (by decide)⟩

end Runs

end IotgoFirmware.Storage.FlashSharing
