import IotgoFirmware.Upgrade.UpgradeSteps

/-!
# The sectors that a download writes

The sector index grows by one with every answer that is stored and is set back at the
end of a download only, while the end of the file is told from the bytes that have
come in. So the sectors that are written stay in the region of the image exactly as
long as no more answers are stored between two ends than the region has sectors.
-/

namespace IotgoFirmware.Upgrade.UpgradeRegion

open IotgoFirmware.Library.CIntegers
open IotgoFirmware.Library.CStrings
open IotgoFirmware.Library.NorFlash
open IotgoFirmware.Library.StepRuns
open IotgoFirmware.Upgrade.UpgradeSession
open IotgoFirmware.Upgrade.UpgradeSteps

set_option autoImplicit false

/-- The sectors of `IOTGO_UPGRADE_BIN_MAX_LEN` bytes. -/
def regionSectors : Nat := 115

theorem region_sectors_bytes : (regionSectors * sectorSize : Int) = upgradeBinMaxLen := by
  decide

/-- Every sector erased or written so far is one of the image that is not running. -/
def InRegion (board : Board) (state : UpgradeState) : Prop :=
  ∀ sector ∈ flashedSectors state.log,
    binStartSector board.currentBin ≤ sector ∧
      sector < binStartSector board.currentBin + regionSectors

/-- The answers stored since `MSG_CORE_UPGRADE_EXIT` was handled last, after an event. -/
def storedAfter (state : UpgradeState) (stored : Nat) : UpgradeEvent → Nat
  | .package pdata len flag .ok =>
      if (flashAttempt state pdata len flag).isSome = true then stored + 1 else stored
  | .handle _ =>
      match state.inbox with
      | .upgradeExit _ :: _ => 0
      | _ => stored
  | _ => stored

structure Tally where
  state : UpgradeState
  stored : Nat

def tallyStep (board : Board) (tally : Tally) (event : UpgradeEvent) (next : Tally) : Prop :=
  upgradeStep board tally.state event next.state ∧
    next.stored = storedAfter tally.state tally.stored event

/-- A package reaches the flash only behind fewer answers than the region has sectors. -/
def FewStored (tally : Tally) (event : UpgradeEvent) : Prop :=
  ReachesFlash tally.state event → tally.stored < regionSectors

instance (tally : Tally) (event : UpgradeEvent) : Decidable (FewStored tally event) :=
  inferInstanceAs (Decidable (_ → _))

section Steps

variable {board : Board} {state next : UpgradeState} {event : UpgradeEvent}

/-- What the steps keep of the record and the index. -/
structure Indexed (board : Board) (tally : Tally) : Prop where
  sector : ∀ info, tally.state.info = some info → info.sector = binStartSector board.currentBin
  index : tally.state.halted = none → tally.state.flashSectorIndex = tally.stored % 65536

theorem bin_start_le (bin : UserBin) : binStartSector bin ≤ 0x81 := by
  cases bin <;> decide

theorem store_sector_eq {info : UpgradeInfo}
    (sector : info.sector = binStartSector board.currentBin) :
    storeSector state info =
      (state.flashSectorIndex + binStartSector board.currentBin) % 65536 := by
  unfold storeSector uint16
  rw [sector]
  omega

/-- A sector that is written is one of the region as long as the index is. -/
theorem store_sector_iff {info : UpgradeInfo} (small : state.flashSectorIndex < 65536)
    (sector : info.sector = binStartSector board.currentBin) :
    (binStartSector board.currentBin ≤ storeSector state info ∧
      storeSector state info < binStartSector board.currentBin + regionSectors) ↔
      state.flashSectorIndex < regionSectors := by
  have bound := bin_start_le board.currentBin
  rw [store_sector_eq sector]
  unfold regionSectors
  omega

theorem stored_after_untouched (stored : Nat) (misses : ¬ ReachesFlash state event)
    (stays : ∀ errorCode, handled state event ≠ some (.upgradeExit errorCode))
    (step : upgradeStep board state event next) :
    storedAfter state stored event = stored := by
  obtain ⟨running, computed⟩ := step
  unfold storedAfter
  split
  · split_ifs with attempt
    · rw [upgradeExec] at computed
      split_ifs at computed with live
      exact absurd ⟨running, live, attempt⟩ misses
    · rfl
  · split
    · rename_i errorCode rest waits
      exact absurd (handled_of_waits waits) (stays errorCode)
    · rfl
  · rfl

theorem stop_log (state : UpgradeState) (errorCode : Nat) :
    flashedSectors (iotgoUpgradeStop state errorCode).log = flashedSectors state.log := by
  unfold iotgoUpgradeStop
  split
  · rfl
  · dsimp only [iotgoUpgradeFree, resetDownload, logged, recordNewBin]
    split_ifs <;> simp [flashedSectors]

theorem stop_info (state : UpgradeState) (errorCode : Nat) :
    (iotgoUpgradeStop state errorCode).info = none := by
  unfold iotgoUpgradeStop
  split
  · assumption
  · rfl

theorem stop_index (state : UpgradeState) (errorCode : Nat)
    (running : (iotgoUpgradeStop state errorCode).halted = none) :
    (iotgoUpgradeStop state errorCode).flashSectorIndex = 0 := by
  unfold iotgoUpgradeStop at running ⊢
  split
  · rename_i missing
    rw [missing] at running
    cases running
  · rfl

/-- A sector that is stored or fails is noted, and it is the next one. -/
theorem stored_frame (board : Board) (state : UpgradeState) (info : UpgradeInfo)
    (src : List UInt8) (count : Nat) (pdata : List UInt8)
    (len : Nat) :
    let after := finishStore board (countStore (takeFileLength state pdata len) info src count) info
    flashedSectors after.log = flashedSectors state.log ++ [storeSector state info] ∧
      after.flashSectorIndex = uint16 (state.flashSectorIndex + 1) ∧ after.info = state.info := by
  have taken := take_file_length_untouched state pdata len
  have finished := finish_untouched board
    (countStore (takeFileLength state pdata len) info src count) info
  have sector : storeSector (takeFileLength state pdata len) info = storeSector state info := by
    rw [storeSector, storeSector, taken.index]
  refine ⟨?_, ?_, ?_⟩
  · rw [finished.sectors, countStore, logged, sectors_append, taken.sectors, sector]
    rfl
  · rw [finished.index, ← taken.index]
    rfl
  · exact finished.info.trans taken.info

theorem failed_frame (state : UpgradeState) (info : UpgradeInfo) (src : List UInt8)
    (left : Flash) (pdata : List UInt8) (len : Nat) :
    let after := failStore (takeFileLength state pdata len) info src left
    flashedSectors after.log = flashedSectors state.log ++ [storeSector state info] ∧
      after.flashSectorIndex = state.flashSectorIndex ∧ after.info = state.info := by
  have taken := take_file_length_untouched state pdata len
  have sector : storeSector (takeFileLength state pdata len) info = storeSector state info := by
    rw [storeSector, storeSector, taken.index]
  have failed := kept_untouched (fail_kept (takeFileLength state pdata len) info src left)
  refine ⟨?_, failed.index.trans taken.index, failed.info.trans taken.info⟩
  rw [failed.sectors, spoiled, logged, sectors_append, taken.sectors, sector]
  rfl

theorem request_info (info : UpgradeInfo) (memory : Bool) :
    ∀ record, (iotgoUpgradeProcessRequest board state info memory).info = some record →
      record.sector = binStartSector board.currentBin := by
  intro record present
  unfold iotgoUpgradeProcessRequest at present
  split at present
  · cases present
    rfl
  · cases present

theorem request_frame (info : UpgradeInfo) (memory : Bool) :
    let after := iotgoUpgradeProcessRequest board state info memory
    after.log = state.log ∧ after.flashSectorIndex = state.flashSectorIndex := by
  unfold iotgoUpgradeProcessRequest
  dsimp only
  split <;> exact ⟨rfl, rfl⟩

/-- A package that reaches the flash touches one sector. -/
theorem reached_sectors (step : upgradeStep board state event next)
    (reaches : ReachesFlash state event) :
    ∃ info, state.info = some info ∧
      flashedSectors next.log = flashedSectors state.log ++ [storeSector state info] := by
  cases step_kind step with
  | untouched _ misses _ => exact absurd reaches misses
  | requested _ _ same _ =>
      subst same
      exact reaches.elim
  | stopped _ _ _ same _ _ =>
      subst same
      exact reaches.elim
  | stored pdata len info src count _ _ present taken =>
      subst taken
      exact ⟨info, present, (stored_frame board _ info src count pdata len).1⟩
  | failed pdata len info src _ left _ _ present taken =>
      subst taken
      exact ⟨info, present, (failed_frame _ info src left pdata len).1⟩

theorem reached_next (board : Board) (reaches : ReachesFlash state event) :
    ∃ next, upgradeStep board state event next := by
  cases event with
  | package pdata len flag result =>
      obtain ⟨running, live, -⟩ := reaches
      exact ⟨_, running, if_pos live⟩
  | _ => exact reaches.elim

theorem missed_sectors (step : upgradeStep board state event next)
    (misses : ¬ ReachesFlash state event) :
    flashedSectors next.log = flashedSectors state.log := by
  have reaches {pdata : List UInt8} {len : Nat} {flag : Bool} {result : FlashResult}
      {found : UpgradeInfo × List UInt8 × Nat}
      (same : event = .package pdata len flag result)
      (attempt : flashAttempt state pdata len flag = some found) : ReachesFlash state event := by
    subst same
    obtain ⟨running, computed⟩ := step
    rw [upgradeExec] at computed
    split_ifs at computed with live
    exact ⟨running, live, Option.isSome_iff_exists.2 ⟨_, attempt⟩⟩
  cases step_kind step with
  | untouched quiet _ _ => exact (quiet_untouched quiet).sectors
  | requested info memory _ taken =>
      subst taken
      rw [(request_frame info memory).1]
  | stopped _ errorCode rest _ _ taken =>
      subst taken
      exact stop_log _ errorCode
  | stored _ _ _ _ _ same attempt _ _ => exact absurd (reaches same attempt) misses
  | failed _ _ _ _ _ _ same attempt _ _ => exact absurd (reaches same attempt) misses

theorem stop_flash (state : UpgradeState) (errorCode : Nat) :
    (iotgoUpgradeStop state errorCode).flash = state.flash := by
  unfold iotgoUpgradeStop
  split
  · rfl
  · dsimp only [iotgoUpgradeFree, resetDownload, logged, recordNewBin]
    split_ifs <;> rfl

theorem request_flash (board : Board) (state : UpgradeState) (info : UpgradeInfo)
    (memory : Bool) : (iotgoUpgradeProcessRequest board state info memory).flash = state.flash := by
  unfold iotgoUpgradeProcessRequest
  split <;> rfl

theorem reaches_of_attempt {pdata : List UInt8} {len : Nat} {flag : Bool}
    {result : FlashResult} {found : UpgradeInfo × List UInt8 × Nat}
    (step : upgradeStep board state (.package pdata len flag result) next)
    (attempt : flashAttempt state pdata len flag = some found) :
    ReachesFlash state (.package pdata len flag result) := by
  obtain ⟨running, computed⟩ := step
  rw [upgradeExec] at computed
  split_ifs at computed with live
  exact ⟨running, live, Option.isSome_iff_exists.2 ⟨found, attempt⟩⟩

/-- A step that does not reach the flash leaves it. -/
theorem missed_flash (step : upgradeStep board state event next)
    (misses : ¬ ReachesFlash state event) : next.flash = state.flash := by
  cases step_kind step with
  | untouched quiet _ _ => exact (quiet_untouched quiet).flash
  | requested info memory _ taken => rw [taken, request_flash]
  | stopped _ errorCode rest _ _ taken => rw [taken, stop_flash]
  | stored _ _ _ _ _ same attempt _ _ =>
      subst same
      exact absurd (reaches_of_attempt step attempt) misses
  | failed _ _ _ _ _ _ same attempt _ _ =>
      subst same
      exact absurd (reaches_of_attempt step attempt) misses

end Steps

section Runs

variable {board : Board} {tally next : Tally} {event : UpgradeEvent}

/-- A step keeps to the region exactly where the sector it may write is one of its. -/
theorem in_region_step (indexed : Indexed board tally)
    (step : upgradeStep board tally.state event next.state) :
    InRegion board next.state ↔
      InRegion board tally.state ∧
        (ReachesFlash tally.state event → tally.stored % 65536 < regionSectors) := by
  have index := indexed.index step.1
  by_cases reaches : ReachesFlash tally.state event
  · obtain ⟨info, present, sectors⟩ := reached_sectors step reaches
    have small : tally.state.flashSectorIndex < 65536 := by omega
    have next_in := store_sector_iff small (indexed.sector info present)
    rw [index] at next_in
    unfold InRegion
    rw [sectors]
    simp only [List.forall_mem_append, List.forall_mem_singleton, next_in, reaches, true_imp_iff]
  · unfold InRegion
    rw [missed_sectors step reaches]
    simp only [reaches, false_imp_iff, and_true]

theorem indexed_step (indexed : Indexed board tally) (step : tallyStep board tally event next) :
    Indexed board next := by
  obtain ⟨taken, counted⟩ := step
  have index := indexed.index taken.1
  cases step_kind taken with
  | untouched quiet misses stays =>
      have frame := quiet_untouched quiet
      refine ⟨?_, fun _ => ?_⟩
      · rw [frame.info]
        exact indexed.sector
      · rw [frame.index, index, counted, stored_after_untouched _ misses stays taken]
  | requested info memory same same' =>
      refine ⟨?_, fun _ => ?_⟩
      · rw [same']
        exact request_info info memory
      · rw [same', (request_frame info memory).2, index, counted, same]
        rfl
  | stopped returns errorCode rest same waits same' =>
      refine ⟨?_, fun running => ?_⟩
      · rw [same', stop_info]
        intro info present
        cases present
      · rw [same'] at running ⊢
        rw [stop_index _ errorCode running, counted, same, storedAfter, waits]
        rfl
  | stored pdata len info src count same attempt present same' =>
      have frame := stored_frame board tally.state info src count pdata len
      refine ⟨?_, fun _ => ?_⟩
      · rw [same', frame.2.2]
        exact indexed.sector
      · rw [same', frame.2.1, index, counted, same, storedAfter, attempt]
        simp only [Option.isSome_some, if_true, uint16]
        omega
  | failed pdata len info src count left same attempt present same' =>
      have frame := failed_frame tally.state info src left pdata len
      refine ⟨?_, fun _ => ?_⟩
      · rw [same', frame.2.2]
        exact indexed.sector
      · rw [same', frame.2.1, index, counted, same]
        rfl

/-- While everything is in the region, no more answers are stored than it has sectors. -/
structure Counted (board : Board) (tally : Tally) : Prop where
  indexed : Indexed board tally
  few : InRegion board tally.state → tally.stored ≤ regionSectors

theorem stored_after_le (step : upgradeStep board tally.state event next.state)
    (counted : next.stored = storedAfter tally.state tally.stored event) :
    next.stored ≤ tally.stored ∨
      (ReachesFlash tally.state event ∧ next.stored = tally.stored + 1) := by
  obtain ⟨running, computed⟩ := step
  rw [counted]
  unfold storedAfter
  split
  · split_ifs with attempt
    · rw [upgradeExec] at computed
      split_ifs at computed with live
      exact .inr ⟨⟨running, live, attempt⟩, rfl⟩
    · exact .inl le_rfl
  · split
    · exact .inl (Nat.zero_le _)
    · exact .inl le_rfl
  · exact .inl le_rfl

theorem counted_step (counted : Counted board tally) (step : tallyStep board tally event next) :
    Counted board next := by
  refine ⟨indexed_step counted.indexed step, fun inside => ?_⟩
  obtain ⟨before, reached⟩ := (in_region_step counted.indexed step.1).1 inside
  have few := counted.few before
  rcases stored_after_le step.1 step.2 with fewer | ⟨reaches, more⟩
  · exact fewer.trans few
  · have room := reached reaches
    unfold regionSectors at *
    omega

/-- Every sector that is written is one of the region exactly as long as fewer answers
are stored between two ends of a download than the region has sectors. -/
theorem region_kept_iff (board : Board) (flash : Flash) (events : List UpgradeEvent) :
    Keeps (tallyStep board) (fun tally => InRegion board tally.state)
        ⟨UpgradeState.initial flash, 0⟩ events ↔
      Meets (tallyStep board) FewStored ⟨UpgradeState.initial flash, 0⟩ events := by
  apply keeps_iff_meets (Counted board)
  · intro tally event next counted step
    exact counted_step counted step
  · intro tally event counted inside
    have few := counted.few inside
    have small : tally.stored % 65536 = tally.stored := by
      unfold regionSectors at few
      omega
    constructor
    · intro kept reaches
      obtain ⟨next, step⟩ := reached_next board reaches
      have inside' := kept ⟨next, storedAfter tally.state tally.stored event⟩ ⟨step, rfl⟩
      exact small ▸ ((in_region_step counted.indexed step).1 inside').2 reaches
    · intro room next step
      rw [in_region_step counted.indexed step.1, small]
      exact ⟨inside, room⟩
  · refine ⟨⟨?_, fun _ => rfl⟩, fun _ => Nat.zero_le _⟩
    intro info present
    cases present
  · intro sector member
    cases member

def tallyExec (board : Board) (tally : Tally) (event : UpgradeEvent) : Option Tally :=
  (runExec board tally.state event).map fun next =>
    ⟨next, storedAfter tally.state tally.stored event⟩

theorem tally_exec_sound (board : Board) (tally : Tally) (event : UpgradeEvent) (next : Tally)
    (computed : tallyExec board tally event = some next) : tallyStep board tally event next := by
  obtain ⟨state, taken, rfl⟩ := Option.map_eq_some_iff.1 computed
  exact ⟨run_exec_sound board tally.state event state taken, rfl⟩

def firstBoard : Board where
  currentBin := .bin1
  sha256Hex := fun _ => []

def anyUpgrade : UpgradeInfo where
  name := asciiBytes "user.bin"
  version := asciiBytes "1.0.1"
  sha256 := []
  sequence := asciiBytes "1"
  host := asciiBytes "10.0.0.1"
  port := 80
  path := asciiBytes "/user.bin"
  sector := 0
  autoRestart := false

def allReturns : SystemReturns where
  sproMemory := true
  httpMemory := true
  sectorMemory := true
  connectOk := true
  sendOk := true

/-- An answer with one byte of a file that fills the region. -/
def oneByteAnswer : UpgradeEvent :=
  let pdata := asciiBytes
    "HTTP/1.1 206 Partial Content\r\nContent-Length: 1\r\nContent-Range: bytes 0-0/471040\r\n\r\nx"
  .package pdata pdata.length true .ok

/-- A download of a file that the server sends in answers of one byte. -/
def oneByteAnswers : List UpgradeEvent :=
  [.request anyUpgrade true, .enterTimer, .handle allReturns] ++ List.replicate 116 oneByteAnswer

theorem one_byte_answers_reached :
    ((execRun (tallyExec firstBoard) ⟨UpgradeState.initial fun _ => 0xFF, 0⟩ oneByteAnswers).any
      fun final => decide (0xF4 ∈ flashedSectors final.state.log)) = true := by
  decide +kernel

/-- Answers of one byte are stored in a sector each, and the last one behind the region. -/
theorem region_left :
    ¬ Keeps (tallyStep firstBoard) (fun tally => InRegion firstBoard tally.state)
        ⟨UpgradeState.initial fun _ => 0xFF, 0⟩ oneByteAnswers := by
  intro kept
  obtain ⟨final, run, left⟩ :=
    exists_run_of_exec (tally_exec_sound firstBoard) one_byte_answers_reached
  have inside := keeps_final kept run _ (of_decide_eq_true left)
  exact absurd inside.2 (by decide)

end Runs

end IotgoFirmware.Upgrade.UpgradeRegion
