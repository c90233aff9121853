import IotgoFirmware.Library.TwoSlotStore

/-!
# The parameter block and the device configuration

`iotgo_flash.c` keeps the parameter block, and `iotgo_global.c` the configuration of
the device, in two sectors each with a flag in a third one.
-/

namespace IotgoFirmware.Storage.FlashParam

open IotgoFirmware.Library.NorFlash
open IotgoFirmware.Library.StepRuns
open IotgoFirmware.Library.TwoSlotStore

set_option autoImplicit false

/-- What a pointer to an object of this size points to. -/
structure Memory (size : Nat) where
  bytes : List UInt8
  sized : bytes.length = size

theorem zero_bytes_length (size : Nat) : (List.replicate size (0 : UInt8)).length = size :=
  List.length_replicate

def Memory.zeros (size : Nat) : Memory size where
  bytes := List.replicate size 0
  sized := zero_bytes_length size

/-- `sizeof(IoTgoFlashParamFlag)`, of which `flag` is the first byte. -/
def flagSize : Nat := 8

/-- `sizeof(IoTgoFlashParam)`. -/
def flashParamSize : Nat := 472

/-- `IOTGO_PARAM_START_SEC`. -/
def paramStartSec : Nat := 0x78

/-- `DEVICE_CONFIG_START_SEC`. -/
def deviceConfigStartSec : Nat := 0x7C

/-- `IOTGO_PARAM_SAVE_0`, `DEVICE_CONFIG_SAVE_0`. -/
def save0 : Nat := 0x00

/-- `IOTGO_PARAM_SAVE_1`, `DEVICE_CONFIG_SAVE_1`. -/
def save1 : Nat := 0x01

/-- `IOTGO_PARAM_FLAG`, `DEVICE_CONFIG_FLAG`. -/
def flagSec : Nat := 0x02

def loadFrom (startSec len : Nat) (flash : Flash) : List UInt8 :=
  let flag := readAt flash ((startSec + flagSec) * sectorSize) flagSize
  if flag.getD 0 0 = 0 then readAt flash ((startSec + save0) * sectorSize) len
  else readAt flash ((startSec + save1) * sectorSize) len

def saveTo (startSec len : Nat) (param : List UInt8) (flash : Flash) : List FlashOp :=
  let flag := readAt flash ((startSec + flagSec) * sectorSize) flagSize
  if flag.getD 0 0 = 0 then
    [.erase (startSec + save1),
      .write ((startSec + save1) * sectorSize) (param.take len),
      .erase (startSec + flagSec),
      .write ((startSec + flagSec) * sectorSize) (flag.set 0 1)]
  else
    [.erase (startSec + save0),
      .write ((startSec + save0) * sectorSize) (param.take len),
      .erase (startSec + flagSec),
      .write ((startSec + flagSec) * sectorSize) (flag.set 0 0)]

def iotgoFlashLoadParam (flash : Flash) : List UInt8 :=
  loadFrom paramStartSec flashParamSize flash

def iotgoFlashSaveParam (param : Memory flashParamSize) (flash : Flash) : List FlashOp :=
  saveTo paramStartSec flashParamSize param.bytes flash

/-- At most one sector, in whole words. -/
def configLength (len : Nat) : Nat :=
  let len := len % (sectorSize + 1)
  len - len % 4

def devLoadConfigFromFlash (len : Nat) (flash : Flash) : List UInt8 :=
  loadFrom deviceConfigStartSec (configLength len) flash

def devSaveConfigToFlash {len : Nat} (param : Memory len) (flash : Flash) : List FlashOp :=
  saveTo deviceConfigStartSec (configLength len) param.bytes flash

/-- A save that ends, or one that is cut. -/
def ParamStep (before : Flash) (event : SaveEvent (Memory flashParamSize)) (after : Flash) : Prop :=
  match event with
  | .saved param => after = runOps (iotgoFlashSaveParam param before) before
  | .cut param => Cut (iotgoFlashSaveParam param before) before after

def ConfigStep (len : Nat) (before : Flash) (event : SaveEvent (Memory len)) (after : Flash) :
    Prop :=
  match event with
  | .saved param => after = runOps (devSaveConfigToFlash param before) before
  | .cut param => Cut (devSaveConfigToFlash param before) before after

theorem config_length_eq {len : Nat} (words : 4 ∣ len) (short : len ≤ sectorSize) :
    configLength len = len := by
  have whole : len % (sectorSize + 1) = len := Nat.mod_eq_of_lt (Nat.lt_succ_of_le short)
  rw [configLength, whole, Nat.mod_eq_zero_of_dvd words, Nat.sub_zero]

section Slots

variable (startSec len : Nat)

/-- The slot behind a flag byte of zero is the one that `save0` names. -/
def slotSec (selected : Bool) : Nat :=
  startSec + if selected then save1 else save0

def slotFill (selected : Bool) (param : Memory len) : List FlashOp :=
  [.erase (slotSec startSec selected),
    .write (slotSec startSec selected * sectorSize) param.bytes]

variable {len}

theorem slot_fill_inside (short : len ≤ sectorSize) (selected : Bool) (param : Memory len) :
    ∀ op ∈ slotFill startSec len selected param, ∀ address,
      op.Touches address → address / sectorSize ∈ [slotSec startSec selected] := by
  intro op member address touched
  rw [List.mem_singleton]
  rcases List.mem_cons.1 member with rfl | last
  · exact touched
  · rw [List.mem_singleton.1 last] at touched
    exact write_in_sector (param.sized.trans_le short) touched

theorem slot_read_inside (short : len ≤ sectorSize) (selected : Bool) (flash other : Flash)
    (same : ∀ address, address / sectorSize ∈ [slotSec startSec selected] →
      flash address = other address) :
    readAt flash (slotSec startSec selected * sectorSize) len =
      readAt other (slotSec startSec selected * sectorSize) len := by
  apply read_at_congr
  intro address above below
  apply same
  obtain ⟨offset, rfl⟩ := Nat.exists_eq_add_of_le above
  rw [List.mem_singleton]
  exact in_sector (Nat.lt_of_lt_of_le (Nat.lt_of_add_lt_add_left below) short)

theorem slot_filled (short : len ≤ sectorSize) (selected : Bool) (param : Memory len)
    (flash : Flash) :
    readAt (runOps (slotFill startSec len selected param) flash)
      (slotSec startSec selected * sectorSize) len = param.bytes := by
  have found := erase_write_read flash (slotSec startSec selected) (param.sized.trans_le short)
  rw [param.sized] at found
  exact found

/-- The two sectors and the flag as a store with two slots. -/
def slots (short : len ≤ sectorSize) : SlotPair (Memory len) (List UInt8) where
  flagSector := startSec + flagSec
  flagOffset := 0
  flagSize := flagSize
  fill := slotFill startSec len
  slot selected flash := readAt flash (slotSec startSec selected * sectorSize) len
  seen := Memory.bytes
  sectors selected := [slotSec startSec selected]
  flagInside := by decide
  flagShort := by decide
  apart sector := by
    simp only [List.mem_singleton, slotSec, save0, save1]
    intro here there
    simp only [Bool.false_eq_true, if_false, if_true] at here there
    omega
  flagApart selected := by
    simp only [List.mem_singleton, slotSec, save0, save1, flagSec]
    cases selected <;> simp
  fillInside := slot_fill_inside startSec short
  slotInside := slot_read_inside startSec short
  filled := slot_filled startSec short

theorem flag_byte (flash : Flash) :
    (readAt flash ((startSec + flagSec) * sectorSize) flagSize).getD 0 0 =
      flash ((startSec + flagSec) * sectorSize) := by
  rw [read_at_getD (by decide), Nat.add_zero]

theorem slots_selected (short : len ≤ sectorSize) (flash : Flash) :
    (slots startSec short).selected flash =
      decide (flash ((startSec + flagSec) * sectorSize) ≠ 0) := by
  rw [SlotPair.selected, SlotPair.flagStart, slots, Nat.add_zero]

theorem load_from_eq (short : len ≤ sectorSize) (flash : Flash) :
    loadFrom startSec len flash = (slots startSec short).load flash := by
  rw [loadFrom, flag_byte, SlotPair.load, slots_selected]
  by_cases zero : flash ((startSec + flagSec) * sectorSize) = 0
  · simp [zero, slots, slotSec]
  · simp [zero, slots, slotSec]

theorem save_to_eq (short : len ≤ sectorSize) (param : Memory len) (flash : Flash) :
    saveTo startSec len param.bytes flash = (slots startSec short).save param flash := by
  have whole : param.bytes.take len = param.bytes := List.take_of_length_le param.sized.le
  rw [saveTo, flag_byte, SlotPair.save, slots_selected, whole]
  by_cases zero : flash ((startSec + flagSec) * sectorSize) = 0
  · simp [zero, slots, slotFill, slotSec, SlotPair.turn, SlotPair.flagRecord, SlotPair.flagStart]
  · simp [zero, slots, slotFill, slotSec, SlotPair.turn, SlotPair.flagRecord, SlotPair.flagStart]

end Slots

theorem flash_param_short : flashParamSize ≤ sectorSize := by decide

theorem param_step_iff (before : Flash) (event : SaveEvent (Memory flashParamSize))
    (after : Flash) :
    ParamStep before event after ↔
      (slots paramStartSec flash_param_short).SaveStep before event after := by
  cases event with
  | saved param =>
      rw [ParamStep, iotgoFlashSaveParam, save_to_eq _ flash_param_short]
      exact Iff.rfl
  | cut param =>
      rw [ParamStep, iotgoFlashSaveParam, save_to_eq _ flash_param_short]
      exact Iff.rfl

theorem config_step_iff {len : Nat} (words : 4 ∣ len) (short : len ≤ sectorSize) (before : Flash)
    (event : SaveEvent (Memory len)) (after : Flash) :
    ConfigStep len before event after ↔
      (slots deviceConfigStartSec short).SaveStep before event after := by
  cases event with
  | saved param =>
      rw [ConfigStep, devSaveConfigToFlash, config_length_eq words short, save_to_eq _ short]
      exact Iff.rfl
  | cut param =>
      rw [ConfigStep, devSaveConfigToFlash, config_length_eq words short, save_to_eq _ short]
      exact Iff.rfl

theorem load_saved_config {len : Nat} (words : 4 ∣ len) (short : len ≤ sectorSize)
    (param : Memory len) (flash : Flash) :
    devLoadConfigFromFlash len (runOps (devSaveConfigToFlash param flash) flash) = param.bytes := by
  have saved := (config_step_iff words short flash (.saved param) _).1 rfl
  rw [saved, devLoadConfigFromFlash, config_length_eq words short, load_from_eq _ short]
  exact (slots deviceConfigStartSec short).load_saved param flash

theorem load_torn_config {len : Nat} (words : 4 ∣ len) (short : len ≤ sectorSize)
    (param : Memory len) (before after : Flash)
    (cut : Cut (devSaveConfigToFlash param before) before after) :
    devLoadConfigFromFlash len after = devLoadConfigFromFlash len before ∨
      devLoadConfigFromFlash len after = param.bytes := by
  have torn := (config_step_iff words short before (.cut param) after).1 cut
  simp only [devLoadConfigFromFlash, config_length_eq words short, load_from_eq _ short]
  exact (slots deviceConfigStartSec short).load_cut torn

/-- Whatever saves are cut after a first one that was not, a load returns the block of
the last save that was done, or of one that was cut after it. -/
theorem saves_crash_safe :
    (∀ before first events after,
      Run ParamStep before (.saved first :: events) after →
        ∃ last, LastSaved (.saved first :: events) last ∧
          iotgoFlashLoadParam after = last.bytes) ∧
    ∀ len, 4 ∣ len → len ≤ sectorSize → ∀ before first events after,
      Run (ConfigStep len) before (.saved first :: events) after →
        ∃ last, LastSaved (.saved first :: events) last ∧
          devLoadConfigFromFlash len after = last.bytes := by
  constructor
  · intro before first events after run
    have saves := run_mono (fun _ _ _ => (param_step_iff _ _ _).1) run
    rw [iotgoFlashLoadParam, load_from_eq _ flash_param_short]
    exact (slots paramStartSec flash_param_short).load_run_saved saves
  · intro len words short before first events after run
    have saves := run_mono (fun _ _ _ => (config_step_iff words short _ _ _).1) run
    rw [devLoadConfigFromFlash, config_length_eq words short, load_from_eq _ short]
    exact (slots deviceConfigStartSec short).load_run_saved saves

section Torn

def Memory.ones (size : Nat) : Memory size where
  bytes := List.replicate size 1
  sized := List.length_replicate

variable {Param : Type}

/-- A save of one block that ends, and one of another that stops in the middle of its block. -/
def tornAfter (save : Param → Flash → List FlashOp) (first second : Param) (limit : Nat) : Flash :=
  let saved := runOps (save first fun _ => 0xFF) fun _ => 0xFF
  stoppedIn limit 1 (save second saved) saved

theorem saves_crash_safe_torn :
    (∃ last, LastSaved [.saved (Memory.zeros flashParamSize), .cut (.ones flashParamSize)] last ∧
      iotgoFlashLoadParam (tornAfter iotgoFlashSaveParam (.zeros _) (.ones _)
        ((paramStartSec + save1) * sectorSize + 100)) = last.bytes) ∧
    ∃ last, LastSaved [.saved (Memory.zeros 8), .cut (.ones 8)] last ∧
      devLoadConfigFromFlash 8 (tornAfter devSaveConfigToFlash (.zeros 8) (.ones 8)
        ((deviceConfigStartSec + save1) * sectorSize + 5)) = last.bytes := by
  constructor
  · exact saves_crash_safe.1 (fun _ => 0xFF) _ _ _ (.cons rfl (.cons (cut_stopped_in _ 1 _ _) .nil))
  · exact saves_crash_safe.2 8 (by decide) (by decide) (fun _ => 0xFF) _ _ _
      (.cons rfl (.cons (cut_stopped_in _ 1 _ _) .nil))

end Torn

end IotgoFirmware.Storage.FlashParam
