import IotgoFirmware.Upgrade.UpgradePlacement

/-!
# What a verified download records

The digest is checked when the last answer is stored; the record is made when the
signal that tells of it has come through the queue, from the request and the length
that are there by then. In between, another request may have taken the place of the
one that was verified, or a download may have started anew, and then a digest is
recorded that no image has. Where none of this happens while the signal waits, what
is recorded is what was verified.
-/

namespace IotgoFirmware.Upgrade.UpgradeRecord

open IotgoFirmware.Library.CIntegers
open IotgoFirmware.Library.CStrings
open IotgoFirmware.Library.LoopRules
open IotgoFirmware.Library.NorFlash
open IotgoFirmware.Library.StepRuns
open IotgoFirmware.Upgrade.UpgradePlacement
open IotgoFirmware.Upgrade.UpgradeRegion
open IotgoFirmware.Upgrade.UpgradeSession
open IotgoFirmware.Upgrade.UpgradeSteps

set_option autoImplicit false

/-- Every record is that of an image that was verified, and was in the flash with its digest
when the record was made; only then has the restart been armed. -/
structure Recorded (board : Board) (state : UpgradeState) : Prop where
  verified : ∀ bin image, .newBinInfo bin image ∈ state.log →
    image.length = bin.length ∧ board.sha256Hex image = bin.sha256 ∧ .verified bin ∈ state.log
  restart : state.exitTimer = true → ∃ bin image, .newBinInfo bin image ∈ state.log

/-- The sectors of the file that has been verified. -/
def imageSectors (state : UpgradeState) : Nat :=
  (fileSize state + (sectorSize - 1)) / sectorSize

/-- The sector of the next answer is not one of the image. -/
def BehindImage (state : UpgradeState) : Prop :=
  ∀ info ∈ state.info,
    storeSector state info < info.sector ∨ info.sector + imageSectors state ≤ storeSector state info

/-- While the end of a verified download waits in the queue, a request is one for the same
image, no download starts, and a package reaches the flash only behind the image. -/
def Undisturbed (state : UpgradeState) (event : UpgradeEvent) : Prop :=
  .upgradeExit upgradeErrorOk ∈ state.inbox →
    match event with
    | .request info _ => ∃ record ∈ state.info,
        info.name = record.name ∧ info.version = record.version ∧ info.sha256 = record.sha256
    | .handle _ => state.inbox.head? ≠ some .upgradeEnter
    | .package pdata len flag _ => (flashAttempt state pdata len flag).isSome = true →
        BehindImage state
    | _ => True

instance (state : UpgradeState) : Decidable (BehindImage state) :=
  inferInstanceAs (Decidable (∀ info ∈ state.info, _ ∨ _))

instance (state : UpgradeState) : (event : UpgradeEvent) → Decidable (Undisturbed state event)
  | .request info _ => inferInstanceAs (Decidable (_ → ∃ record ∈ state.info,
      info.name = record.name ∧ info.version = record.version ∧ info.sha256 = record.sha256))
  | .handle _ => inferInstanceAs (Decidable (_ → _ ≠ _))
  | .package _ _ _ _ => inferInstanceAs (Decidable (_ → _ → BehindImage state))
  | .enterTimer => isTrue fun _ => trivial
  | .connectServerAgainTimer _ => isTrue fun _ => trivial
  | .progressTimer => isTrue fun _ => trivial
  | .connected => isTrue fun _ => trivial
  | .lost => isTrue fun _ => trivial
  | .post _ => isTrue fun _ => trivial

section Verification

variable {board : Board} {flash : Flash} {start size : Nat} {head next final : Nat × List UInt8}

/-- The index counts the sectors that have been read, as long as sixteen bits hold it. -/
def Read (flash : Flash) (start size : Nat) (head : Nat × List UInt8) : Prop :=
  head.1 < 65536 ∧ (size / sectorSize < 65536 →
    head.1 ≤ size / sectorSize ∧ head.2 = readAt flash start (head.1 * sectorSize))

theorem read_pass (read : Read flash start size head)
    (pass : verifyBody flash start size head = .again next) : Read flash start size next := by
  obtain ⟨small, counted⟩ := read
  unfold verifyBody at pass
  split at pass
  · rename_i below
    cases pass
    refine ⟨Nat.mod_lt _ (by decide), fun few => ?_⟩
    obtain ⟨-, bytes⟩ := counted few
    have more : (head.1 + 1) % 65536 = head.1 + 1 := by omega
    dsimp only
    rw [more, bytes, read_at_append, Nat.add_one_mul]
    exact ⟨below, rfl⟩
  · cases pass

theorem read_leaves (read : Read flash start size head)
    (pass : verifyBody flash start size head = .exit final) :
    final.2 = readAt flash start size := by
  obtain ⟨small, counted⟩ := read
  unfold verifyBody at pass
  split at pass
  · cases pass
  · cases pass
    obtain ⟨le, bytes⟩ := counted (by omega)
    have last : head.1 = size / sectorSize := by omega
    dsimp only
    rw [bytes, read_at_append, last, Nat.div_add_mod']

theorem read_begins (flash : Flash) (start size : Nat) : Read flash start size (0, []) := by
  refine ⟨by decide, fun _ => ⟨Nat.zero_le _, ?_⟩⟩
  rw [Nat.zero_mul]
  rfl

theorem verify_exits_read (ends : Exits (verifyBody flash start size) (0, []) final) :
    final.2 = readAt flash start size :=
  exits_keeps (Read flash start size) (fun _ _ => read_pass) (fun _ _ => read_leaves)
    (read_begins flash start size) ends

theorem verify_read {digestHex : List UInt8}
    (verified : verifyFlashData board flash start size digestHex = some true) :
    board.sha256Hex (readAt flash start size) = digestHex := by
  unfold verifyFlashData at verified
  split at verified
  · cases verified
  · rename_i read ends
    rw [← verify_exits_read (exits_of_iterate ends)]
    exact of_decide_eq_true (Option.some.inj verified)

end Verification

section Invariant

variable {board : Board} {state next : UpgradeState} {event : UpgradeEvent}

/-- The image that a record names is in the flash, and has been verified. -/
structure Verified (board : Board) (state : UpgradeState) (info : UpgradeInfo) : Prop where
  begun : state.started = true
  digest : board.sha256Hex (readAt state.flash (info.sector * sectorSize) (fileSize state)) =
    info.sha256
  noted : .verified (binInfo state info) ∈ state.log

structure Sound (board : Board) (state : UpgradeState) : Prop where
  sector : ∀ info ∈ state.info, info.sector = binStartSector board.currentBin
  recorded : Recorded board state
  pending : .upgradeExit upgradeErrorOk ∈ state.inbox →
    ∀ info ∈ state.info, Verified board state info

theorem verified_congr {info : UpgradeInfo} (verified : Verified board state info)
    (started : next.started = state.started) (flash : next.flash = state.flash)
    (length : next.upgradeFile.fileLength = state.upgradeFile.fileLength)
    (log : ∀ entry ∈ state.log, entry ∈ next.log) : Verified board next info where
  begun := started.trans verified.begun
  digest := by
    rw [flash, fileSize, length]
    exact verified.digest
  noted := by
    rw [binInfo, fileSize, length]
    exact log _ verified.noted

theorem recorded_more {more : List UpgradeLog} (recorded : Recorded board state)
    (log : next.log = state.log ++ more) (timer : next.exitTimer = state.exitTimer)
    (others : ∀ bin image, .newBinInfo bin image ∉ more) : Recorded board next where
  verified := by
    rw [log]
    intro bin image member
    rcases List.mem_append.1 member with before | now
    · obtain ⟨length, digest, noted⟩ := recorded.verified bin image before
      exact ⟨length, digest, List.mem_append_left more noted⟩
    · exact absurd now (others bin image)
  restart := by
    rw [timer, log]
    intro armed
    obtain ⟨bin, image, member⟩ := recorded.restart armed
    exact ⟨bin, image, List.mem_append_left more member⟩

theorem recorded_same (recorded : Recorded board state) (log : next.log = state.log)
    (timer : next.exitTimer = state.exitTimer) : Recorded board next := by
  apply recorded_more recorded (log.trans (List.append_nil _).symm) timer
  intro bin image member
  cases member

theorem sound_kept (kept : Kept state next) (sound : Sound board state) : Sound board next where
  sector := by
    rw [kept.info]
    exact sound.sector
  recorded := recorded_same sound.recorded kept.log kept.exitTimer
  pending := by
    rw [kept.info]
    intro waits info present
    apply verified_congr (sound.pending (kept.verified waits) info present) kept.started kept.flash
    · rw [kept.upgradeFile]
    · rw [kept.log]
      exact fun entry => id

theorem sound_popped {signal : UpgradeSignal} {rest : List UpgradeSignal}
    (waits : state.inbox = signal :: rest) (sound : Sound board state) :
    Sound board { state with inbox := rest } := by
  apply sound_kept (kept_inbox state ?_) sound
  intro waiting member
  rw [waits]
  exact List.mem_cons_of_mem signal member

theorem sound_take (pdata : List UInt8) (len : Nat) (sound : Sound board state) :
    Sound board (takeFileLength state pdata len) := by
  unfold takeFileLength
  split_ifs with begun
  · exact sound
  · refine ⟨sound.sector, recorded_same sound.recorded rfl rfl, fun waits info present => ?_⟩
    exact absurd (sound.pending waits info present).begun begun

theorem sound_start (returns : SystemReturns) (sound : Sound board state)
    (none_waits : .upgradeExit upgradeErrorOk ∉ state.inbox) :
    Sound board (iotgoUpgradeStart state returns) := by
  apply sound_kept (start_kept state returns)
  refine ⟨sound.sector, recorded_same sound.recorded rfl rfl, fun waits => ?_⟩
  exact absurd waits none_waits

theorem sound_download (sendOk : Bool) (sound : Sound board state) :
    Sound board (iotgoUpgradeDownload state sendOk) := by
  have pending (more : List UpgradeLog) {after : UpgradeState} (inbox : after.inbox = state.inbox)
      (info : after.info = state.info) (started : after.started = state.started)
      (flash : after.flash = state.flash) (log : after.log = state.log ++ more)
      (length : after.upgradeFile.fileLength = state.upgradeFile.fileLength) :
      .upgradeExit upgradeErrorOk ∈ after.inbox → ∀ record ∈ after.info,
        Verified board after record := by
    rw [inbox, info]
    intro waits record present
    apply verified_congr (sound.pending waits record present) started flash length
    rw [log]
    exact fun entry => List.mem_append_left more
  rcases download_cases state sendOk with ⟨-, kept⟩ | halted
  · apply sound_kept kept
    refine ⟨sound.sector, recorded_more sound.recorded rfl rfl ?_, ?_⟩
    · intro bin image member
      cases List.mem_singleton.1 member
    · exact pending _ rfl rfl rfl rfl rfl rfl
  · rw [halted]
    refine ⟨sound.sector, recorded_same sound.recorded rfl rfl, ?_⟩
    exact pending [] rfl rfl rfl rfl (List.append_nil _).symm rfl

theorem sound_request {info : UpgradeInfo} (memory : Bool) (sound : Sound board state)
    (same : .upgradeExit upgradeErrorOk ∈ state.inbox → ∃ record ∈ state.info,
      info.name = record.name ∧ info.version = record.version ∧ info.sha256 = record.sha256) :
    Sound board (iotgoUpgradeProcessRequest board state info memory) := by
  refine ⟨request_info info memory, ?_, ?_⟩
  · unfold iotgoUpgradeProcessRequest
    split
    · exact recorded_same sound.recorded rfl rfl
    · exact recorded_same sound.recorded rfl rfl
  · unfold iotgoUpgradeProcessRequest
    split
    · intro waits taken present
      cases present
      obtain ⟨record, held, name, version, sha256⟩ := same waits
      have verified := sound.pending waits record held
      have sector := sound.sector record held
      refine ⟨verified.begun, ?_, ?_⟩
      · have digest := verified.digest
        rw [sector, ← sha256] at digest
        exact digest
      · have noted := verified.noted
        rw [binInfo, ← name, ← version, ← sha256] at noted
        exact noted
    · intro waits taken present
      cases present

theorem stop_present {info : UpgradeInfo} (errorCode : Nat) (present : state.info = some info) :
    (iotgoUpgradeStop state errorCode).log =
        state.log ++
          ((if errorCode = upgradeErrorOk then
              [.newBinInfo (binInfo state info)
                (readAt state.flash (info.sector * sectorSize) (fileSize state))]
            else []) ++ [.sendUpgradeState errorCode info.sequence]) ∧
      (iotgoUpgradeStop state errorCode).exitTimer =
        (state.exitTimer || (errorCode = upgradeErrorOk && info.autoRestart)) := by
  rw [iotgoUpgradeStop, present]
  dsimp only [iotgoUpgradeFree, resetDownload, logged, recordNewBin]
  by_cases ok : errorCode = upgradeErrorOk
  · rw [if_pos ok, if_pos ok]
    exact ⟨List.append_assoc _ _ _, rfl⟩
  · rw [if_neg ok, if_neg ok]
    exact ⟨rfl, rfl⟩

theorem sound_stop {errorCode : Nat} (sound : Sound board state)
    (ready : errorCode = upgradeErrorOk → ∀ info ∈ state.info, Verified board state info) :
    Sound board (iotgoUpgradeStop state errorCode) := by
  have freed := stop_info state errorCode
  refine ⟨?_, ?_, ?_⟩
  · rw [freed]
    intro info present
    cases present
  · cases present : state.info with
    | none =>
        rw [stop_missing errorCode present]
        exact recorded_same sound.recorded rfl rfl
    | some info =>
        obtain ⟨log, timer⟩ := stop_present errorCode present
        refine ⟨?_, ?_⟩
        · rw [log]
          intro bin image member
          rcases List.mem_append.1 member with before | now
          · obtain ⟨length, digest, noted⟩ := sound.recorded.verified bin image before
            exact ⟨length, digest, List.mem_append_left _ noted⟩
          · by_cases ok : errorCode = upgradeErrorOk
            · have verified := ready ok info present
              rw [if_pos ok] at now
              rcases List.mem_cons.1 now with same | other
              · cases same
                exact ⟨read_at_length _ _, verified.digest, List.mem_append_left _ verified.noted⟩
              · cases List.mem_singleton.1 other
            · rw [if_neg ok] at now
              cases List.mem_singleton.1 now
        · rw [log, timer]
          intro armed
          rcases Bool.or_eq_true_iff.1 armed with before | now
          · obtain ⟨bin, image, member⟩ := sound.recorded.restart before
            exact ⟨bin, image, List.mem_append_left _ member⟩
          · have ok := of_decide_eq_true (Bool.and_eq_true_iff.1 now).1
            rw [if_pos ok]
            exact ⟨_, _, List.mem_append_right _ List.mem_cons_self⟩
  · rw [freed]
    intro waits info present
    cases present

theorem read_apart {sector start size : Nat} {flash : Flash} {src : List UInt8}
    (result : FlashResult) (short : src.length ≤ sectorSize)
    (apart : sector < start ∨ start + (size + (sectorSize - 1)) / sectorSize ≤ sector) :
    readAt (flashOneSector flash sector src result) (start * sectorSize) size =
      readAt flash (start * sectorSize) size := by
  apply read_at_congr
  intro address low high
  apply flash_one_sector_byte result short
  unfold sectorSize at *
  omega

theorem behind_take {pdata : List UInt8} {len : Nat} (begun : state.started = true)
    (behind : BehindImage state) : BehindImage (takeFileLength state pdata len) := by
  rw [takeFileLength, if_pos begun]
  exact behind

/-- A sector is written, with some result; nothing else of the download changes but its counters. -/
structure SectorWritten (state : UpgradeState) (info : UpgradeInfo) (src : List UInt8)
    (result : FlashResult) (next : UpgradeState) : Prop where
  sameInfo : next.info = state.info
  inbox : next.inbox = state.inbox
  started : next.started = state.started
  exitTimer : next.exitTimer = state.exitTimer
  length : next.upgradeFile.fileLength = state.upgradeFile.fileLength
  flash : next.flash = flashOneSector state.flash (storeSector state info) src result
  log : ∃ done, next.log = state.log ++ [.flashed (storeSector state info) done]

theorem verified_written {info : UpgradeInfo} {src : List UInt8} {result : FlashResult}
    (written : SectorWritten state info src result next) (verified : Verified board state info)
    (present : state.info = some info) (short : src.length ≤ sectorSize)
    (behind : BehindImage state) : Verified board next info where
  begun := written.started.trans verified.begun
  digest := by
    have size : fileSize next = fileSize state := by rw [fileSize, written.length, fileSize]
    rw [written.flash, size, read_apart result short (behind info present)]
    exact verified.digest
  noted := by
    obtain ⟨done, log⟩ := written.log
    rw [binInfo, fileSize, written.length, log]
    exact List.mem_append_left _ verified.noted

theorem sound_written {info : UpgradeInfo} {src : List UInt8} {result : FlashResult}
    (written : SectorWritten state info src result next) (sound : Sound board state)
    (present : state.info = some info) (short : src.length ≤ sectorSize)
    (behind : .upgradeExit upgradeErrorOk ∈ state.inbox → BehindImage state) :
    Sound board next := by
  obtain ⟨done, log⟩ := written.log
  refine ⟨?_, recorded_more sound.recorded log written.exitTimer ?_, ?_⟩
  · rw [written.sameInfo]
    exact sound.sector
  · intro bin image member
    cases List.mem_singleton.1 member
  · rw [written.inbox, written.sameInfo]
    intro waits record held
    cases present.symm.trans held
    exact verified_written written (sound.pending waits info present) present short (behind waits)

theorem sound_finish {info : UpgradeInfo} (sound : Sound board state)
    (present : state.info = some info) (begun : state.started = true) :
    Sound board (finishStore board state info) := by
  rcases finish_cases board state info with kept | ⟨verified, taken⟩
  · exact sound_kept kept sound
  · obtain ⟨inbox, posted, -⟩ := post_eq (logged state (.verified (binInfo state info)))
      (.upgradeExit upgradeErrorOk)
    rw [taken, posted]
    refine ⟨sound.sector, recorded_more sound.recorded rfl rfl ?_, ?_⟩
    · intro bin image member
      cases List.mem_singleton.1 member
    · intro waits record held
      cases present.symm.trans held
      exact ⟨begun, verify_read verified, List.mem_append_right _ List.mem_cons_self⟩

theorem sound_step (sound : Sound board state) (undisturbed : Undisturbed state event)
    (step : upgradeStep board state event next) : Sound board next := by
  have waits_before {pdata : List UInt8} {len : Nat}
      (waits : .upgradeExit upgradeErrorOk ∈ (takeFileLength state pdata len).inbox) :
      .upgradeExit upgradeErrorOk ∈ state.inbox := by
    obtain ⟨started, length, taken⟩ := take_file_length_eq state pdata len
    rw [taken] at waits
    exact waits
  have behind {pdata : List UInt8} {len : Nat} {result : FlashResult} {info : UpgradeInfo}
      {found : UpgradeInfo × List UInt8 × Nat} (same : event = .package pdata len true result)
      (attempt : flashAttempt state pdata len true = some found) (present : state.info = some info)
      (waits : .upgradeExit upgradeErrorOk ∈ (takeFileLength state pdata len).inbox) :
      BehindImage (takeFileLength state pdata len) := by
    subst same
    have before := waits_before waits
    apply behind_take (sound.pending before info present).begun
    exact undisturbed before (Option.isSome_iff_exists.2 ⟨_, attempt⟩)
  cases step_kind step with
  | untouched quiet _ _ =>
      cases quiet with
      | kept frame _ _ => exact sound_kept frame sound
      | entered returns rest same waits taken =>
          subst same taken
          apply sound_start returns (sound_popped waits sound)
          intro member
          have heads := undisturbed (waits ▸ List.mem_cons_of_mem _ member)
          rw [waits] at heads
          exact heads rfl
      | asked returns rest same waits taken =>
          subst taken
          exact sound_download returns.sendOk (sound_popped waits sound)
      | measured pdata len result same frame =>
          exact sound_kept frame (sound_take pdata len sound)
  | requested info memory same taken =>
      subst same taken
      exact sound_request memory sound undisturbed
  | stopped returns errorCode rest same waits taken =>
      subst same taken
      apply sound_stop (sound_popped waits sound)
      rintro rfl info present
      have verified := sound.pending (waits ▸ List.mem_cons_self) info present
      exact verified_congr verified rfl rfl rfl fun entry => id
  | stored pdata len info src count same attempt present taken =>
      have held := (take_file_length_untouched state pdata len).info.trans present
      rw [taken]
      apply sound_finish
      · have written : SectorWritten (takeFileLength state pdata len) info src .ok
            (countStore (takeFileLength state pdata len) info src count) :=
          ⟨rfl, rfl, rfl, rfl, rfl, rfl, true, rfl⟩
        exact sound_written written (sound_take pdata len sound) held
          (attempt_image_length attempt).le (behind same attempt present)
      · exact held
      · exact (attempt_data attempt).1
  | failed pdata len info src count left same attempt present taken =>
      have held := (take_file_length_untouched state pdata len).info.trans present
      rw [taken]
      apply sound_kept (fail_kept _ info src left)
      have written : SectorWritten (takeFileLength state pdata len) info src (.error left)
          (spoiled (takeFileLength state pdata len) info src left) :=
        ⟨rfl, rfl, rfl, rfl, rfl, rfl, false, rfl⟩
      exact sound_written written (sound_take pdata len sound) held
        (attempt_image_length attempt).le (behind same attempt present)

end Invariant

section Runs

/-- Where nothing disturbs a verified download until it is recorded, what is recorded is what
was verified. -/
theorem recorded_kept (board : Board) (flash : Flash) (events : List UpgradeEvent)
    (undisturbed : Meets (upgradeStep board) Undisturbed (.initial flash) events) :
    Keeps (upgradeStep board) (Recorded board) (.initial flash) events := by
  have initial : Sound board (.initial flash) := by
    refine ⟨?_, ⟨?_, ?_⟩, ?_⟩
    · intro info present
      cases present
    · intro bin image member
      cases member
    · intro armed
      cases armed
    · intro waits
      cases waits
  apply keeps_mono fun state sound => Sound.recorded sound
  exact keeps_of_meets (Sound board) (fun _ _ _ => sound_step) initial undisturbed

/-- A board whose digest keeps every byte. -/
def echoBoard : Board where
  currentBin := .bin1
  sha256Hex := id

def hiUpgrade : UpgradeInfo :=
  { anyUpgrade with sha256 := asciiBytes "hi" }

def laterUpgrade : UpgradeInfo :=
  { anyUpgrade with version := asciiBytes "1.0.2", sha256 := asciiBytes "ho" }

/-- A download of one answer, up to the signal that it has been verified. -/
def verifiedDownload : List UpgradeEvent :=
  [.request hiUpgrade true, .enterTimer, .handle allReturns, .connected, .handle allReturns,
    shortAnswer.event]

theorem recorded_kept_short :
    Keeps (upgradeStep echoBoard) (Recorded echoBoard) (.initial fun _ => 0xFF)
      (verifiedDownload ++ [.handle allReturns]) :=
  recorded_kept echoBoard (fun _ => 0xFF) (verifiedDownload ++ [.handle allReturns])
    (meets_of_exec (upgrade_step_unique echoBoard) (run_exec_sound echoBoard) (by decide +kernel))

def laterBin : NewBinInfo where
  name := asciiBytes "user.bin"
  version := asciiBytes "1.0.2"
  length := 2
  sha256 := asciiBytes "ho"

theorem later_recorded :
    ((execRun (runExec echoBoard) (.initial fun _ => 0xFF)
        (verifiedDownload ++ [UpgradeEvent.request laterUpgrade true, .handle allReturns])).any
      fun final => decide (.newBinInfo laterBin (asciiBytes "hi") ∈ final.log)) = true := by
  decide +kernel

/-- A request that comes before the record is made is recorded in place of what was verified. -/
theorem recorded_lost :
    ¬ Keeps (upgradeStep echoBoard) (Recorded echoBoard) (.initial fun _ => 0xFF)
        (verifiedDownload ++ [.request laterUpgrade true, .handle allReturns]) := by
  intro kept
  obtain ⟨final, run, recorded⟩ := exists_run_of_exec (run_exec_sound echoBoard) later_recorded
  have verified := (keeps_final kept run).verified _ _ (of_decide_eq_true recorded)
  exact absurd verified.2.1 (by decide)

end Runs

end IotgoFirmware.Upgrade.UpgradeRecord
