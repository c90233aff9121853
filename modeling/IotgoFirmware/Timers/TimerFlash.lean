import IotgoFirmware.Library.TwoSlotStore
import IotgoFirmware.Timers.TimerLayout

/-!
# The timers in flash

Two blocks in two sectors make one slot: the timers that do not fit into the first
block would go into the second. The table of eight fits into the first one.
-/

namespace IotgoFirmware.Timers.TimerFlash

open IotgoFirmware.Library.NorFlash
open IotgoFirmware.Library.StepRuns
open IotgoFirmware.Library.TwoSlotStore
open IotgoFirmware.Timers.TimerLayout

set_option autoImplicit false

/-- `timer_flash_save1`. -/
def timerFlashSave1 : Nat := 0x74

/-- `timer_flash_save2`. -/
def timerFlashSave2 : Nat := 0x75

/-- `timer_flash_save3`. -/
def timerFlashSave3 : Nat := 0x76

/-- `timer_flash_save4`. -/
def timerFlashSave4 : Nat := 0x77

/-- `timer_flash_flag`. -/
def timerFlashFlag : Nat := 0x7B

/-- `sizeof(IoTgoTimerFlashParamFlag)`. -/
def timerFlagSize : Nat := 8

/-- `flag` comes behind `pad`. -/
def timerFlagOffset : Nat := 4

structure TimerState where
  table : TimerTable
  flash : Flash

def readParam (sector : Nat) (flash : Flash) : IotgoTimerFlashParam :=
  flashParamLayout.decode (readAt flash (sector * sectorSize) flashParamLayout.width)

def writeParam (sector : Nat) (param : IotgoTimerFlashParam) : FlashOp :=
  .write (sector * sectorSize) (flashParamLayout.encode param)

def readFlag (flash : Flash) : List UInt8 :=
  readAt flash (timerFlashFlag * sectorSize) timerFlagSize

/-- The flash operations of `timerSaveToFlash`. -/
def timerSaveOps (table : TimerTable) (flash : Flash) : List FlashOp :=
  let param := table.toParam 0 firstCount
  let rest := table.toParam halfMaxNum secondCount
  let flag := readFlag flash
  if flag.getD timerFlagOffset 0 = 0 then
    [.erase timerFlashSave1, .erase timerFlashSave3,
      writeParam timerFlashSave1 param, writeParam timerFlashSave3 rest,
      .erase timerFlashFlag,
      .write (timerFlashFlag * sectorSize) (flag.set timerFlagOffset 1)]
  else
    [.erase timerFlashSave2, .erase timerFlashSave4,
      writeParam timerFlashSave2 param, writeParam timerFlashSave4 rest,
      .erase timerFlashFlag,
      .write (timerFlashFlag * sectorSize) (flag.set timerFlagOffset 0)]

/-- What `os_malloc` says to the block of `timerSaveToFlash` or `timerLoadFromFlash`, and
to the one of a `timerFlashErase` inside. -/
structure BlockMemory where
  block : Bool
  erase : Bool

def BlockMemory.granted : BlockMemory :=
  ⟨true, true⟩

/-- Nothing is saved without `memory` for the block. -/
def timerSaveToFlash (memory : Bool) (state : TimerState) : TimerState :=
  if memory then { state with flash := runOps (timerSaveOps state.table state.flash) state.flash }
  else state

/-- `none` where the block claims more timers than there are. -/
def loadBlocks (save more : Nat) (flash : Flash) : Option TimerTable :=
  let param := readParam save flash
  if UInt32.ofNat iotgoTimerNum < param.timerNum then none
  else some (.ofParams param (readParam more flash))

/-- What `timerLoadFromFlash` copies into the tables. -/
def loadedTable (flash : Flash) : Option TimerTable :=
  if (readFlag flash).getD timerFlagOffset 0 = 0 then
    loadBlocks timerFlashSave2 timerFlashSave4 flash
  else loadBlocks timerFlashSave1 timerFlashSave3 flash

/-- A block of `timerFlashErase`: no timer is in it. -/
def emptyParam : IotgoTimerFlashParam where
  timerNum := UInt32.ofNat iotgoTimerNum
  timer _ := .zero
  timerInfo := { timerVer := 0, timerCnt := 0 }
  timerId _ := 0

def timerEraseOps : List FlashOp :=
  [.erase timerFlashSave1, .erase timerFlashSave2, .erase timerFlashSave3,
    .erase timerFlashSave4,
    writeParam timerFlashSave1 emptyParam, writeParam timerFlashSave2 emptyParam,
    writeParam timerFlashSave3 emptyParam, writeParam timerFlashSave4 emptyParam]

/-- `iotgo_timer_info` stays: it is handed to `os_memset` by value. -/
def timerFlashErase (memory : Bool) (state : TimerState) : TimerState :=
  if memory then
    { table := { state.table with timerId := fun _ => 0, timer := fun _ => .zero }
      flash := runOps timerEraseOps state.flash }
  else state

def timerLoadFromFlash (memory : BlockMemory) (state : TimerState) : TimerState :=
  if memory.block then
    match loadedTable state.flash with
    | none => timerFlashErase memory.erase state
    | some table => { state with table := table }
  else state

section Slots

variable {flash other : Flash}

def saveSec (selected : Bool) : Nat :=
  if selected then timerFlashSave1 else timerFlashSave2

def moreSec (selected : Bool) : Nat :=
  if selected then timerFlashSave3 else timerFlashSave4

def timerFill (selected : Bool) (table : TimerTable) : List FlashOp :=
  [.erase (saveSec selected), .erase (moreSec selected),
    writeParam (saveSec selected) (table.toParam 0 firstCount),
    writeParam (moreSec selected) (table.toParam halfMaxNum secondCount)]

theorem param_short (param : IotgoTimerFlashParam) :
    (flashParamLayout.encode param).length ≤ sectorSize := by
  rw [flashParamLayout.encode_length, flash_param_layout_width]
  decide

theorem write_param_inside {sector : Nat} {param : IotgoTimerFlashParam} {address : Nat}
    (touched : (writeParam sector param).Touches address) : address / sectorSize = sector :=
  write_in_sector (param_short param) touched

theorem read_param_congr {sector : Nat}
    (same : ∀ address, address / sectorSize = sector → flash address = other address) :
    readParam sector flash = readParam sector other := by
  apply congrArg flashParamLayout.decode
  apply read_at_congr
  intro address above below
  apply same
  obtain ⟨offset, rfl⟩ := Nat.exists_eq_add_of_le above
  refine in_sector (Nat.lt_of_lt_of_le (Nat.lt_of_add_lt_add_left below) ?_)
  rw [flash_param_layout_width]
  decide

def paramBytes (blocks : List (Nat × IotgoTimerFlashParam)) : List (Nat × List UInt8) :=
  blocks.map fun block => (block.1, flashParamLayout.encode block.2)

/-- All the sectors are erased before the first block is written. -/
def paramOps (blocks : List (Nat × IotgoTimerFlashParam)) : List FlashOp :=
  eraseBlocks (paramBytes blocks) ++ writeBlocks (paramBytes blocks)

theorem read_param_written {blocks : List (Nat × IotgoTimerFlashParam)}
    (nodup : (blocks.map Prod.fst).Nodup) {sector : Nat} {param : IotgoTimerFlashParam}
    (among : (sector, param) ∈ blocks) :
    readParam sector (runOps (paramOps blocks) flash) = param := by
  have short : ∀ block ∈ paramBytes blocks, block.2.length ≤ sectorSize := by
    intro block member
    rcases List.mem_map.1 member with ⟨source, -, rfl⟩
    exact param_short source.2
  have sectors : (paramBytes blocks).map Prod.fst = blocks.map Prod.fst := by
    rw [paramBytes, List.map_map]
    rfl
  have bytes : readAt (runOps (paramOps blocks) flash) (sector * sectorSize)
      (flashParamLayout.encode param).length = flashParamLayout.encode param := by
    apply read_at_eq
    intro offset inside
    refine erase_write_blocks (sectors ▸ nodup) short ?_ inside
    exact List.mem_map.2 ⟨(sector, param), among, rfl⟩
  rw [flashParamLayout.encode_length] at bytes
  rw [readParam, bytes, flashParamLayout.decode_encode_all]

theorem timer_fill_eq (selected : Bool) (table : TimerTable) :
    timerFill selected table =
      paramOps [(saveSec selected, table.toParam 0 firstCount),
        (moreSec selected, table.toParam halfMaxNum secondCount)] := rfl

theorem timer_erase_eq :
    timerEraseOps =
      paramOps [(timerFlashSave1, emptyParam), (timerFlashSave2, emptyParam),
        (timerFlashSave3, emptyParam), (timerFlashSave4, emptyParam)] := rfl

theorem timer_fill_inside (selected : Bool) (table : TimerTable) :
    ∀ op ∈ timerFill selected table, ∀ address, op.Touches address →
      address / sectorSize ∈ [saveSec selected, moreSec selected] := by
  intro op member address touched
  simp only [timerFill, List.mem_cons, List.not_mem_nil, or_false] at member ⊢
  rcases member with rfl | rfl | rfl | rfl
  · exact .inl touched
  · exact .inr touched
  · exact .inl (write_param_inside touched)
  · exact .inr (write_param_inside touched)

theorem load_blocks_congr {save more : Nat}
    (same : ∀ address, address / sectorSize ∈ [save, more] → flash address = other address) :
    loadBlocks save more flash = loadBlocks save more other := by
  have first : readParam save flash = readParam save other :=
    read_param_congr fun address here => same address (here ▸ List.mem_cons_self)
  have second : readParam more flash = readParam more other :=
    read_param_congr fun address here => same address (by simp [here])
  rw [loadBlocks, loadBlocks, first, second]

theorem timer_filled (selected : Bool) (table : TimerTable) (flash : Flash) :
    loadBlocks (saveSec selected) (moreSec selected) (runOps (timerFill selected table) flash) =
      some table := by
  have block : readParam (saveSec selected) (runOps (timerFill selected table) flash) =
      table.toParam 0 firstCount := by
    have apart : [saveSec selected, moreSec selected].Nodup := by
      cases selected <;> decide
    rw [timer_fill_eq]
    refine read_param_written ?_ List.mem_cons_self
    exact apart
  rw [loadBlocks, block, table_of_params]
  exact if_neg (UInt32.lt_irrefl _)

/-- The four sectors and the flag as a store with two slots. -/
def timerSlots : SlotPair TimerTable (Option TimerTable) where
  flagSector := timerFlashFlag
  flagOffset := timerFlagOffset
  flagSize := timerFlagSize
  fill := timerFill
  slot selected := loadBlocks (saveSec selected) (moreSec selected)
  seen := some
  sectors selected := [saveSec selected, moreSec selected]
  flagInside := by decide
  flagShort := by decide
  apart := by decide
  flagApart := by decide
  fillInside := timer_fill_inside
  slotInside _ _ _ same := load_blocks_congr same
  filled := timer_filled

theorem flag_byte : (readFlag flash).getD timerFlagOffset 0 =
    flash (timerFlashFlag * sectorSize + timerFlagOffset) :=
  read_at_getD (by decide)

theorem timer_selected (flash : Flash) : timerSlots.selected flash =
    decide (flash (timerFlashFlag * sectorSize + timerFlagOffset) ≠ 0) := rfl

theorem loaded_table_eq (flash : Flash) : loadedTable flash = timerSlots.load flash := by
  rw [loadedTable, flag_byte, SlotPair.load, timer_selected]
  by_cases zero : flash (timerFlashFlag * sectorSize + timerFlagOffset) = 0
  · simp [zero, timerSlots, saveSec, moreSec]
  · simp [zero, timerSlots, saveSec, moreSec]

theorem timer_save_eq (table : TimerTable) (flash : Flash) :
    timerSaveOps table flash = timerSlots.save table flash := by
  rw [timerSaveOps, flag_byte, SlotPair.save, timer_selected]
  by_cases zero : flash (timerFlashFlag * sectorSize + timerFlagOffset) = 0
  · simp [zero, timerSlots, timerFill, saveSec, moreSec, SlotPair.turn, SlotPair.flagRecord,
      SlotPair.flagStart, readFlag]
  · simp [zero, timerSlots, timerFill, saveSec, moreSec, SlotPair.turn, SlotPair.flagRecord,
      SlotPair.flagStart, readFlag]

end Slots

theorem loaded_saved (state : TimerState) :
    loadedTable (timerSaveToFlash true state).flash = some state.table := by
  calc
    loadedTable (timerSaveToFlash true state).flash =
        timerSlots.load (runOps (timerSlots.save state.table state.flash) state.flash) := by
      rw [loaded_table_eq, ← timer_save_eq]
      rfl
    _ = timerSlots.seen state.table := timerSlots.load_saved state.table state.flash
    _ = some state.table := rfl

theorem empty_param_eq : emptyParam = TimerTable.zero.toParam 0 firstCount := by
  have timers : ∀ index, (TimerTable.zero.toParam 0 firstCount).timer index = .zero := by
    intro index
    simp only [TimerTable.toParam]
    split <;> rfl
  have ids : ∀ index, (TimerTable.zero.toParam 0 firstCount).timerId index = 0 := by
    intro index
    simp only [TimerTable.toParam]
    split <;> rfl
  calc
    emptyParam = { TimerTable.zero.toParam 0 firstCount with
        timer := fun _ => .zero, timerId := fun _ => 0 } := rfl
    _ = TimerTable.zero.toParam 0 firstCount := by rw [← funext timers, ← funext ids]

theorem load_blocks_empty {save : Nat} {flash : Flash} (empty : readParam save flash = emptyParam)
    (more : Nat) : loadBlocks save more flash = some .zero := by
  rw [loadBlocks, empty, empty_param_eq, table_of_params]
  exact if_neg (UInt32.lt_irrefl _)

theorem loaded_erased (state : TimerState) :
    loadedTable (timerFlashErase true state).flash = some .zero := by
  have erased : (timerFlashErase true state).flash = runOps timerEraseOps state.flash := rfl
  have apart : [timerFlashSave1, timerFlashSave2, timerFlashSave3, timerFlashSave4].Nodup := by
    decide
  have first : readParam timerFlashSave1 (timerFlashErase true state).flash = emptyParam := by
    rw [erased, timer_erase_eq]
    refine read_param_written ?_ List.mem_cons_self
    exact apart
  have second : readParam timerFlashSave2 (timerFlashErase true state).flash = emptyParam := by
    rw [erased, timer_erase_eq]
    refine read_param_written ?_ (List.mem_cons_of_mem _ List.mem_cons_self)
    exact apart
  rw [loadedTable, load_blocks_empty first, load_blocks_empty second, ite_self]

@[simp] theorem save_table (memory : Bool) (state : TimerState) :
    (timerSaveToFlash memory state).table = state.table := by
  cases memory <;> rfl

@[simp] theorem save_refused (state : TimerState) : timerSaveToFlash false state = state := rfl

theorem load_refused {memory : BlockMemory} (refused : memory.block = false) (state : TimerState) :
    timerLoadFromFlash memory state = state := by
  rw [timerLoadFromFlash, refused]
  rfl

theorem load_of_loaded {memory : BlockMemory} (granted : memory.block = true) {state : TimerState}
    {table : TimerTable} (loaded : loadedTable state.flash = some table) :
    timerLoadFromFlash memory state = { state with table := table } := by
  rw [timerLoadFromFlash, granted, if_pos rfl, loaded]

/-- A save that is cut anywhere, or done. -/
def CutSave (before : Flash) (table : TimerTable) (after : Flash) : Prop :=
  Cut (timerSaveOps table before) before after

theorem loaded_cut {before after : Flash} {table : TimerTable} (cut : CutSave before table after) :
    loadedTable after = loadedTable before ∨ loadedTable after = some table := by
  rw [CutSave, timer_save_eq] at cut
  rw [loaded_table_eq, loaded_table_eq]
  exact timerSlots.load_cut cut

/-- After any number of saves that may be cut, the chip holds the old table or one of
those that were saved. -/
theorem loaded_cuts {before after : Flash} {old : TimerTable} {tables : List TimerTable}
    (holds : loadedTable before = some old) (cuts : Run CutSave before tables after) :
    ∃ active ∈ old :: tables, loadedTable after = some active := by
  induction cuts generalizing old with
  | nil => exact ⟨old, List.mem_cons_self, holds⟩
  | @cons before next after table rest first _ ih =>
      rcases loaded_cut first with same | new
      · rcases ih (same.trans holds) with ⟨active, among, loaded⟩
        refine ⟨active, ?_, loaded⟩
        rcases List.mem_cons.1 among with rfl | later
        · exact List.mem_cons_self
        · exact List.mem_cons_of_mem old (List.mem_cons_of_mem table later)
      · rcases ih new with ⟨active, among, loaded⟩
        exact ⟨active, List.mem_cons_of_mem old among, loaded⟩

/-- However many saves have been cut before it, the next save leaves the table that the
chip held or the new one; where it is not cut, the new one, or without memory for its
block the one that the chip held. A load without memory leaves the tables in RAM. -/
theorem timer_save_crash_safe {flash before : Flash} {old : TimerTable}
    {tables : List TimerTable} (holds : loadedTable flash = some old)
    (cuts : Run CutSave flash tables before) (memory : BlockMemory) (saving : Bool) :
    ∃ active ∈ old :: tables,
      (∀ ram, timerLoadFromFlash memory ⟨ram, before⟩ =
        ⟨if memory.block then active else ram, before⟩) ∧
      ∀ new,
        (∀ ram after, CutSave before new after →
          timerLoadFromFlash memory ⟨ram, after⟩ =
              ⟨if memory.block then active else ram, after⟩ ∨
            timerLoadFromFlash memory ⟨ram, after⟩ =
              ⟨if memory.block then new else ram, after⟩) ∧
        ∀ ram, timerLoadFromFlash memory ⟨ram, (timerSaveToFlash saving ⟨new, before⟩).flash⟩ =
          ⟨if memory.block then (if saving then new else active) else ram,
            (timerSaveToFlash saving ⟨new, before⟩).flash⟩ := by
  have loads : ∀ {chip : Flash} {table : TimerTable}, loadedTable chip = some table → ∀ ram,
      timerLoadFromFlash memory ⟨ram, chip⟩ = ⟨if memory.block then table else ram, chip⟩ := by
    intro chip table loaded ram
    cases granted : memory.block with
    | false => exact load_refused granted _
    | true => exact load_of_loaded granted loaded
  rcases loaded_cuts holds cuts with ⟨active, among, loaded⟩
  refine ⟨active, among, loads loaded, fun new => ⟨?_, ?_⟩⟩
  · intro ram after cut
    rcases loaded_cut cut with same | saved
    · exact .inl (loads (same.trans loaded) ram)
    · exact .inr (loads saved ram)
  · intro ram
    cases saving with
    | false => exact loads loaded ram
    | true => exact loads (loaded_saved ⟨new, before⟩) ram

section Examples

def changedTable : TimerTable :=
  { TimerTable.zero with timerInfo := { timerVer := 1, timerCnt := 0 } }

/-- Without memory for its block, a save of other tables leaves those that the chip holds. -/
theorem save_without_memory :
    ∃ flash old, loadedTable flash = some old ∧
      ∀ ram, timerLoadFromFlash .granted
          ⟨ram, (timerSaveToFlash false ⟨changedTable, flash⟩).flash⟩ ≠
        ⟨changedTable, (timerSaveToFlash false ⟨changedTable, flash⟩).flash⟩ := by
  refine ⟨(timerSaveToFlash true ⟨.zero, fun _ => 0xFF⟩).flash, .zero, loaded_saved _, ?_⟩
  intro ram loaded
  have held := @load_of_loaded .granted rfl ⟨ram, _⟩ _ (loaded_saved ⟨.zero, fun _ => 0xFF⟩)
  have same : TimerTable.zero = changedTable :=
    congrArg TimerState.table (held.symm.trans loaded)
  exact absurd same (by decide)

/-- The chip after the zeros have been saved. -/
def zerosSaved : Flash :=
  (timerSaveToFlash true ⟨.zero, fun _ => 0xFF⟩).flash

/-- The next save is cut inside its first block. -/
def changeTorn : Flash :=
  stoppedIn (timerFlashSave1 * sectorSize + flashParamLayout.width / 2) 2
    (timerSaveOps changedTable zerosSaved) zerosSaved

/-- After that cut, other tables are saved. -/
theorem timer_save_crash_safe_torn :
    ∃ active ∈ [TimerTable.zero, changedTable],
      (∀ ram, timerLoadFromFlash .granted ⟨ram, changeTorn⟩ = ⟨active, changeTorn⟩) ∧
      ∀ new ram after, CutSave changeTorn new after →
        timerLoadFromFlash .granted ⟨ram, after⟩ = ⟨active, after⟩ ∨
          timerLoadFromFlash .granted ⟨ram, after⟩ = ⟨new, after⟩ := by
  have cuts : Run CutSave zerosSaved [changedTable] changeTorn :=
    .cons (cut_stopped_in _ _ _ _) .nil
  rcases timer_save_crash_safe (loaded_saved ⟨.zero, fun _ => 0xFF⟩) cuts .granted true with
    ⟨active, among, held, saves⟩
  exact ⟨active, among, held, fun new => (saves new).1⟩

end Examples

end IotgoFirmware.Timers.TimerFlash
