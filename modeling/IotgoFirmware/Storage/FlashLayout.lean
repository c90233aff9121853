import IotgoFirmware.Library.SharedFlash
import IotgoFirmware.Storage.FlashCipher
import IotgoFirmware.Storage.FlashParam
import IotgoFirmware.Timers.TimerFlash
import IotgoFirmware.Upgrade.UpgradePlacement

/-!
# The writers of the flash

The parameter block, the configuration of the device, the timers, the downloaded image and the
bytes that bind the flash to its chip are written by programs that do not know of each other.
Each of them keeps to sectors of its own, a download as long as it stores few answers; so none
of them changes what another one loads, wherever the power goes.
-/

namespace IotgoFirmware.Storage.FlashLayout

open IotgoFirmware.Library.NorFlash
open IotgoFirmware.Library.SharedFlash
open IotgoFirmware.Library.StepRuns
open IotgoFirmware.Library.TwoSlotStore
open IotgoFirmware.Storage.FlashCipher
open IotgoFirmware.Storage.FlashParam
open IotgoFirmware.Timers.TimerFlash
open IotgoFirmware.Timers.TimerLayout
open IotgoFirmware.Upgrade.UpgradePlacement (attempt_image_length flash_one_sector_byte)
open IotgoFirmware.Upgrade.UpgradeRegion
open IotgoFirmware.Upgrade.UpgradeSession
open IotgoFirmware.Upgrade.UpgradeSteps

set_option autoImplicit false

section Writers

/-- What the device does with its flash. A save is done, or the power goes in it; the block that
`iotgoUpgradeStop` saves is a save of the parameters too. -/
inductive FlashEvent (len : Nat) where
  | param (save : SaveEvent (Memory flashParamSize))
  | config (save : SaveEvent (Memory len))
  | timers (save : SaveEvent TimerTable)
  | timersErase (save : SaveEvent Unit)
  | cipher (save : SaveEvent (ChipIds × (Nat → UInt8)))
  | upgrade (event : UpgradeEvent)
  | upgradeCut (pdata : List UInt8) (len : Nat) (flag : Bool)
  | restart

def withFlash (tally : Tally) (flash : Flash) : Tally :=
  { tally with state := { tally.state with flash := flash } }

/-- A device that starts. -/
def started (flash : Flash) : Tally where
  state := UpgradeState.initial flash
  stored := 0

def Saves {Value : Type} (ops : Value → Flash → List FlashOp) (before : Tally)
    (save : SaveEvent Value) (after : Tally) : Prop :=
  match save with
  | .saved value =>
      after = withFlash before (runOps (ops value before.state.flash) before.state.flash)
  | .cut value =>
      ∃ left, Cut (ops value before.state.flash) before.state.flash left ∧ after = started left

/-- The two calls of `flashOneSector`. -/
def sectorOps (sector : Nat) (src : List UInt8) : List FlashOp :=
  [.erase sector, .write (sector * sectorSize) src]

variable {len : Nat}

def FlashStep (board : Board) (before : Tally) (event : FlashEvent len) (after : Tally) : Prop :=
  match event with
  | .param save => Saves iotgoFlashSaveParam before save after
  | .config save => Saves devSaveConfigToFlash before save after
  | .timers save => Saves timerSaveOps before save after
  | .timersErase save => Saves (fun _ _ => timerEraseOps) before save after
  | .cipher save => Saves (fun value _ => cipherOps value.1 value.2) before save after
  | .upgrade event => tallyStep board before event after
  | .upgradeCut pdata count flag =>
      ReachesFlash before.state (.package pdata count flag .ok) ∧
        ∃ info src size left, flashAttempt before.state pdata count flag = some (info, src, size) ∧
          Cut (sectorOps (storeSector before.state info) src) before.state.flash left ∧
          after = started left
  | .restart => after = started before.state.flash

/-- A package that reaches the flash finds fewer answers stored than the image has sectors. -/
def StoresFew (tally : Tally) : FlashEvent len → Prop
  | .upgrade event => FewStored tally event
  | .upgradeCut pdata count flag => FewStored tally (.package pdata count flag .ok)
  | _ => True

end Writers

section Sectors

/-- The sectors of the image that is not running. -/
def imageSectors (currentBin : UserBin) : List Nat :=
  (List.range regionSectors).map fun offset => binStartSector currentBin + offset

def otherBin : UserBin → UserBin
  | .bin1 => .bin2
  | .bin2 => .bin1

def runningSectors (currentBin : UserBin) : List Nat := imageSectors (otherBin currentBin)

/-- The stores, with the bytes of the cipher. -/
inductive Store where
  | param
  | config
  | timers
  | cipher

def Store.sectors : Store → List Nat
  | .param => [paramStartSec + save0, paramStartSec + save1, paramStartSec + flagSec]
  | .config =>
      [deviceConfigStartSec + save0, deviceConfigStartSec + save1, deviceConfigStartSec + flagSec]
  | .timers =>
      [timerFlashSave1, timerFlashSave2, timerFlashSave3, timerFlashSave4, timerFlashFlag]
  | .cipher => [cipherSector]

def storeOf {len : Nat} : FlashEvent len → Option Store
  | .param _ => some .param
  | .config _ => some .config
  | .timers _ => some .timers
  | .timersErase _ => some .timers
  | .cipher _ => some .cipher
  | .upgrade _ => none
  | .upgradeCut _ _ _ => none
  | .restart => none

def eventSectors {len : Nat} (currentBin : UserBin) (event : FlashEvent len) : List Nat :=
  ((storeOf event).map Store.sectors).getD (imageSectors currentBin)

variable {len : Nat} {currentBin : UserBin}

theorem mem_image_sectors {sector : Nat} :
    sector ∈ imageSectors currentBin ↔
      binStartSector currentBin ≤ sector ∧ sector < binStartSector currentBin + regionSectors := by
  unfold imageSectors
  simp only [List.mem_map, List.mem_range]
  constructor
  · rintro ⟨offset, inside, rfl⟩
    omega
  · intro inside
    exact ⟨sector - binStartSector currentBin, by omega, by omega⟩

/-- An image lies below the timers, or between the configuration and the cipher. -/
theorem image_apart {sector : Nat} (inside : sector ∈ imageSectors currentBin) :
    sector < timerFlashSave1 ∨
      deviceConfigStartSec + flagSec < sector ∧ sector < cipherSector := by
  have bounds := mem_image_sectors.1 inside
  cases currentBin with
  | bin1 =>
      simp only [binStartSector, regionSectors] at bounds
      simp only [timerFlashSave1, deviceConfigStartSec, flagSec, cipherSector]
      omega
  | bin2 =>
      simp only [binStartSector, regionSectors] at bounds
      simp only [timerFlashSave1, deviceConfigStartSec, flagSec, cipherSector]
      omega

theorem images_apart {sector : Nat} (inside : sector ∈ imageSectors currentBin) :
    sector ∉ runningSectors currentBin := by
  intro other
  have bounds := mem_image_sectors.1 inside
  have others := mem_image_sectors.1 other
  cases currentBin with
  | bin1 =>
      simp only [otherBin, binStartSector, regionSectors] at bounds others
      omega
  | bin2 =>
      simp only [otherBin, binStartSector, regionSectors] at bounds others
      omega

theorem store_image_apart {store : Store} {sector : Nat} (inside : sector ∈ store.sectors) :
    sector ∉ imageSectors currentBin := by
  intro other
  have bounds : ∀ known ∈ store.sectors, timerFlashSave1 ≤ known ∧
      (known ≤ deviceConfigStartSec + flagSec ∨ known = cipherSector) := by
    cases store with
    | param => decide
    | config => decide
    | timers => decide
    | cipher => decide
  have bound := bounds sector inside
  rcases image_apart other with below | above
  · omega
  · omega

theorem stores_apart {store other : Store} (different : other ≠ store) :
    ∀ sector ∈ store.sectors, sector ∉ other.sectors := by
  cases store with
  | param => cases other <;> first | exact absurd rfl different | decide
  | config => cases other <;> first | exact absurd rfl different | decide
  | timers => cases other <;> first | exact absurd rfl different | decide
  | cipher => cases other <;> first | exact absurd rfl different | decide

/-- Who does not write a store keeps off its sectors. -/
theorem event_apart {store : Store} {event : FlashEvent len} (other : storeOf event ≠ some store) :
    ∀ sector ∈ store.sectors, sector ∉ eventSectors currentBin event := by
  intro sector inside
  rw [eventSectors]
  cases writes : storeOf event with
  | none => exact store_image_apart inside
  | some writer =>
      have different : writer ≠ store := fun same => other (writes.trans (congrArg some same))
      exact stores_apart different sector inside

theorem running_apart (event : FlashEvent len) :
    ∀ sector ∈ runningSectors currentBin, sector ∉ eventSectors currentBin event := by
  intro sector inside
  rw [eventSectors]
  cases storeOf event with
  | none => exact fun other => images_apart other inside
  | some writer => exact fun other => store_image_apart other inside

end Sectors

section Within

variable {len : Nat} {currentBin : UserBin}

/-- All that is touched is in the sectors. -/
def Within (ops : List FlashOp) (sectors : List Nat) : Prop :=
  ∀ op ∈ ops, ∀ address, op.Touches address → address / sectorSize ∈ sectors

theorem within_nil (sectors : List Nat) : Within [] sectors :=
  fun _ member => absurd member List.not_mem_nil

theorem within_erase {sector : Nat} {sectors : List Nat} (inside : sector ∈ sectors)
    {rest : List FlashOp} (within : Within rest sectors) :
    Within (.erase sector :: rest) sectors := by
  intro op member address touched
  rcases List.mem_cons.1 member with rfl | later
  · exact (show address / sectorSize = sector from touched) ▸ inside
  · exact within op later address touched

theorem within_write {sector : Nat} {bytes : List UInt8} {sectors : List Nat}
    (inside : sector ∈ sectors) (short : bytes.length ≤ sectorSize) {rest : List FlashOp}
    (within : Within rest sectors) :
    Within (.write (sector * sectorSize) bytes :: rest) sectors := by
  intro op member address touched
  rcases List.mem_cons.1 member with rfl | later
  · exact write_in_sector short touched ▸ inside
  · exact within op later address touched

theorem sector_within {sector : Nat} {src : List UInt8} {sectors : List Nat}
    (inside : sector ∈ sectors) (short : src.length ≤ sectorSize) :
    Within (sectorOps sector src) sectors :=
  within_erase inside (within_write inside short (within_nil sectors))

/-- Both stores: a sector each for the values, and one for the flag. -/
theorem save_to_within {startSec size : Nat} (short : size ≤ sectorSize) (param : List UInt8)
    (flash : Flash) :
    Within (saveTo startSec size param flash)
      [startSec + save0, startSec + save1, startSec + flagSec] := by
  have bytes : (param.take size).length ≤ sectorSize :=
    (List.length_take_le size param).trans short
  have flag : ∀ byte : UInt8, ((readAt flash ((startSec + flagSec) * sectorSize) flagSize).set 0
      byte).length ≤ sectorSize := by
    intro byte
    rw [List.length_set, read_at_length]
    decide
  unfold saveTo
  dsimp only
  split
  · exact within_erase (by simp) (within_write (by simp) bytes (within_erase (by simp)
      (within_write (by simp) (flag 1) (within_nil _))))
  · exact within_erase (by simp) (within_write (by simp) bytes (within_erase (by simp)
      (within_write (by simp) (flag 0) (within_nil _))))

theorem timer_save_within (table : TimerTable) (flash : Flash) :
    Within (timerSaveOps table flash) Store.timers.sectors := by
  have flag : ∀ byte : UInt8, ((readFlag flash).set timerFlagOffset byte).length ≤ sectorSize := by
    intro byte
    rw [List.length_set, readFlag, read_at_length]
    decide
  unfold timerSaveOps writeParam
  dsimp only
  split
  · exact within_erase (by decide) (within_erase (by decide) (within_write (by decide)
      (param_short _) (within_write (by decide) (param_short _) (within_erase (by decide)
        (within_write (by decide) (flag 1) (within_nil _))))))
  · exact within_erase (by decide) (within_erase (by decide) (within_write (by decide)
      (param_short _) (within_write (by decide) (param_short _) (within_erase (by decide)
        (within_write (by decide) (flag 0) (within_nil _))))))

theorem timer_erase_within : Within timerEraseOps Store.timers.sectors := by
  unfold timerEraseOps writeParam
  exact within_erase (by decide) (within_erase (by decide) (within_erase (by decide)
    (within_erase (by decide) (within_write (by decide) (param_short _) (within_write (by decide)
      (param_short _) (within_write (by decide) (param_short _) (within_write (by decide)
        (param_short _) (within_nil _))))))))

theorem config_length_le (len : Nat) : configLength len ≤ sectorSize := by
  have small : len % (sectorSize + 1) < sectorSize + 1 := Nat.mod_lt _ (Nat.succ_pos _)
  unfold configLength
  dsimp only
  omega

end Within

section Steps

variable {len : Nat} {board : Board} {before after : Tally} {event : FlashEvent len}

/-- A step changes bytes of the sectors only. -/
def Stays (sectors : List Nat) (before after : Flash) : Prop :=
  ∀ address, address / sectorSize ∉ sectors → after address = before address

theorem saves_stay {Value : Type} {ops : Value → Flash → List FlashOp} {save : SaveEvent Value}
    {sectors : List Nat} (within : ∀ value flash, Within (ops value flash) sectors)
    (step : Saves ops before save after) : Stays sectors before.state.flash after.state.flash := by
  intro address outside
  cases save with
  | saved value =>
      rw [show after = withFlash before _ from step]
      exact ops_untouched fun op member touched => outside (within value _ op member _ touched)
  | cut value =>
      obtain ⟨left, cut, rfl⟩ := step
      exact cut_untouched cut fun op member touched =>
        outside (within value _ op member _ touched)

/-- The sector that is stored next is one of the image. -/
theorem store_sector_inside (indexed : Indexed board before) {upgrade : UpgradeEvent}
    (reaches : ReachesFlash before.state upgrade) (few : FewStored before upgrade)
    (running : before.state.halted = none) {info : UpgradeInfo}
    (present : before.state.info = some info) :
    storeSector before.state info ∈ imageSectors board.currentBin := by
  have index := indexed.index running
  have room : before.stored < regionSectors := few reaches
  rw [mem_image_sectors]
  apply (store_sector_iff (by omega) (indexed.sector info present)).2
  unfold regionSectors at *
  omega

theorem stored_flash (board : Board) (state : UpgradeState) (info : UpgradeInfo)
    (src : List UInt8) (size : Nat) (pdata : List UInt8) (count : Nat) :
    (finishStore board (countStore (takeFileLength state pdata count) info src size) info).flash =
      flashOneSector state.flash (storeSector state info) src .ok := by
  have taken := take_file_length_untouched state pdata count
  have sector : storeSector (takeFileLength state pdata count) info = storeSector state info := by
    rw [storeSector, storeSector, taken.index]
  rw [(finish_untouched board _ info).flash, countStore, sector, taken.flash]

theorem failed_flash (state : UpgradeState) (info : UpgradeInfo) (src : List UInt8)
    (left : Flash) (pdata : List UInt8) (count : Nat) :
    (failStore (takeFileLength state pdata count) info src left).flash =
      flashOneSector state.flash (storeSector state info) src (.error left) := by
  have taken := take_file_length_untouched state pdata count
  have sector : storeSector (takeFileLength state pdata count) info = storeSector state info := by
    rw [storeSector, storeSector, taken.index]
  rw [(fail_kept (takeFileLength state pdata count) info src left).flash, spoiled, sector,
    taken.flash]

/-- A download that stores few answers changes the image that is not running alone. -/
theorem upgrade_stays (indexed : Indexed board before) {upgrade : UpgradeEvent}
    (few : FewStored before upgrade) (step : tallyStep board before upgrade after) :
    Stays (imageSectors board.currentBin) before.state.flash after.state.flash := by
  intro address outside
  cases step_kind step.1 with
  | untouched quiet _ _ => rw [(quiet_untouched quiet).flash]
  | requested info memory _ taken => rw [taken, request_flash]
  | stopped _ errorCode rest _ _ taken => rw [taken, stop_flash]
  | stored pdata count info src size same attempt present taken =>
      subst same
      have inside := store_sector_inside indexed (reaches_of_attempt step.1 attempt) few
        step.1.1 present
      rw [taken, stored_flash]
      apply flash_one_sector_byte .ok (attempt_image_length attempt).le
      exact fun there => outside (there ▸ inside)
  | failed pdata count info src size left same attempt present taken =>
      subst same
      have inside := store_sector_inside indexed (reaches_of_attempt step.1 attempt) few
        step.1.1 present
      rw [taken, failed_flash]
      apply flash_one_sector_byte (.error left) (attempt_image_length attempt).le
      exact fun there => outside (there ▸ inside)

theorem attempt_info {state : UpgradeState} {pdata : List UInt8} {count : Nat} {flag : Bool}
    {info : UpgradeInfo} {src : List UInt8} {size : Nat}
    (attempt : flashAttempt state pdata count flag = some (info, src, size)) :
    state.info = some info := by
  unfold flashAttempt at attempt
  split_ifs at attempt
  obtain ⟨_, -, mapped⟩ := Option.bind_eq_some_iff.1 attempt
  obtain ⟨record, present, same⟩ := Option.map_eq_some_iff.1 mapped
  cases same
  exact present

/-- Every writer keeps to its sectors. -/
theorem step_stays (indexed : Indexed board before) (few : StoresFew before event)
    (step : FlashStep board before event after) :
    Stays (eventSectors board.currentBin event) before.state.flash after.state.flash := by
  cases event with
  | param save =>
      have saves : Saves iotgoFlashSaveParam before save after := step
      apply saves_stay _ saves
      exact fun param flash => save_to_within flash_param_short param.bytes flash
  | config save =>
      have saves : Saves devSaveConfigToFlash before save after := step
      apply saves_stay _ saves
      exact fun param flash => save_to_within (config_length_le len) param.bytes flash
  | timers save => exact saves_stay timer_save_within step
  | timersErase save =>
      have saves : Saves (fun _ _ => timerEraseOps) before save after := step
      exact saves_stay (fun _ _ => timer_erase_within) saves
  | cipher save =>
      have saves : Saves (fun value _ => cipherOps value.1 value.2) before save after := step
      apply saves_stay _ saves
      intro value _
      exact sector_within (List.mem_singleton_self _) (cipher_length value.1 value.2).le
  | upgrade upgrade => exact upgrade_stays indexed few step
  | upgradeCut pdata count flag =>
      obtain ⟨reaches, info, src, size, left, attempt, cut, rfl⟩ := step
      have inside := store_sector_inside indexed reaches few reaches.1 (attempt_info attempt)
      intro address outside
      apply cut_untouched cut
      intro op member touched
      exact outside (sector_within inside (attempt_image_length attempt).le op member _ touched)
  | restart =>
      rw [show after = started before.state.flash from step]
      exact fun _ _ => rfl

theorem started_indexed (board : Board) (flash : Flash) : Indexed board (started flash) := by
  constructor
  · intro info present
    cases present
  · intro _
    rfl

theorem saves_indexed {Value : Type} {ops : Value → Flash → List FlashOp} {save : SaveEvent Value}
    (indexed : Indexed board before) (step : Saves ops before save after) :
    Indexed board after := by
  cases save with
  | saved value =>
      rw [show after = withFlash before _ from step]
      exact ⟨indexed.sector, indexed.index⟩
  | cut value =>
      obtain ⟨left, _, rfl⟩ := step
      exact started_indexed board left

theorem flash_step_indexed (indexed : Indexed board before)
    (step : FlashStep board before event after) : Indexed board after := by
  cases event with
  | param save => exact saves_indexed indexed step
  | config save => exact saves_indexed indexed step
  | timers save => exact saves_indexed indexed step
  | timersErase save =>
      have saves : Saves (fun _ _ => timerEraseOps) before save after := step
      exact saves_indexed indexed saves
  | cipher save =>
      have saves : Saves (fun value _ => cipherOps value.1 value.2) before save after := step
      exact saves_indexed indexed saves
  | upgrade upgrade => exact indexed_step indexed step
  | upgradeCut pdata count flag =>
      obtain ⟨_, _, _, _, left, _, _, rfl⟩ := step
      exact started_indexed board left
  | restart =>
      rw [show after = started before.state.flash from step]
      exact started_indexed board _

end Steps

end IotgoFirmware.Storage.FlashLayout
