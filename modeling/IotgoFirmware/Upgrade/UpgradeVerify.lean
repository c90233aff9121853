import IotgoFirmware.Upgrade.UpgradeRecord

/-!
# The end of the verification

The loop of `verifyFlashData` counts the sectors in sixteen bits, and the length of the file is
an `int32_t` that is -1 where the first response has named none. Every download has then got more
than the whole file, and as a size -1 is more sectors than the index can count.
-/

namespace IotgoFirmware.Upgrade.UpgradeVerify

open IotgoFirmware.Library.CIntegers
open IotgoFirmware.Library.CStrings
open IotgoFirmware.Library.LoopRules
open IotgoFirmware.Library.NorFlash
open IotgoFirmware.Library.StepRuns
open IotgoFirmware.Upgrade.UpgradePlacement
open IotgoFirmware.Upgrade.UpgradeRecord
open IotgoFirmware.Upgrade.UpgradeRegion
open IotgoFirmware.Upgrade.UpgradeSession
open IotgoFirmware.Upgrade.UpgradeSteps

set_option autoImplicit false

section Loop

variable {flash : Flash} {start size : Nat}

theorem pass_counts {head next : Nat × List UInt8} (few : size / sectorSize < 65536)
    (read : Read flash start size head) (pass : verifyBody flash start size head = .again next) :
    size / sectorSize - next.1 < size / sectorSize - head.1 := by
  obtain ⟨small, counted⟩ := read
  unfold verifyBody at pass
  split at pass
  · rename_i below
    cases pass
    dsimp only
    omega
  · cases pass

theorem verify_completes (few : size / sectorSize < 65536) :
    ∃ read, iterate (verifyBody flash start size) 65536 (0, []) = .exit read := by
  apply iterate_of_measure (Read flash start size) fun head => size / sectorSize - head.1
  · intro head next read pass
    exact ⟨read_pass read pass, pass_counts few read pass⟩
  · exact read_begins flash start size
  · dsimp only
    omega

/-- From 65536 sectors on the index never gets there. -/
theorem verify_endless {read : Nat × List UInt8} (many : 65536 ≤ size / sectorSize) :
    ¬Exits (verifyBody flash start size) (0, []) read := by
  apply not_exits_of_invariant fun head => head.1 < 65536
  · intro head small
    unfold verifyBody
    rw [if_pos (Nat.lt_of_lt_of_le small many)]
    exact ⟨_, rfl, Nat.mod_lt _ (by decide)⟩
  · decide

theorem verify_exits_iff :
    (∃ read, Exits (verifyBody flash start size) (0, []) read) ↔ size / sectorSize < 65536 := by
  constructor
  · rintro ⟨read, ends⟩
    by_contra many
    exact verify_endless (Nat.le_of_not_lt many) ends
  · intro few
    rcases verify_completes few with ⟨read, ends⟩
    exact ⟨read, exits_of_iterate ends⟩

theorem verify_none {board : Board} {digestHex : List UInt8} (many : 65536 ≤ size / sectorSize) :
    verifyFlashData board flash start size digestHex = none := by
  unfold verifyFlashData
  split
  · rfl
  · rename_i read ends
    exact absurd (exits_of_iterate ends) (verify_endless many)

end Loop

section Calls

variable {board : Board} {state next : UpgradeState} {event : UpgradeEvent} {pdata : List UInt8}
  {len : Nat} {info : UpgradeInfo}

/-- The state and the record with which a step calls `verifyFlashData`. -/
def verifyCall (state : UpgradeState) : UpgradeEvent → Option (UpgradeState × UpgradeInfo)
  | .package pdata len flag .ok =>
      (flashAttempt state pdata len flag).bind fun (info, src, count) =>
        let stored := countStore (takeFileLength state pdata len) info src count
        if stored.upgradeFile.fileLength ≤ stored.upgradeFile.downloadedLength then
          some (stored, info)
        else none
  | _ => none

/-- The loop ends, and has read the region up to the length of the file. -/
def ReadsFile (board : Board) (state : UpgradeState) (info : UpgradeInfo) : Prop :=
  ∃ read, Exits (verifyBody state.flash (info.sector * sectorSize) (fileSize state)) (0, []) read ∧
    0 ≤ state.upgradeFile.fileLength ∧
    read.2 = readAt state.flash (binStartSector board.currentBin * sectorSize)
      state.upgradeFile.fileLength.toNat

def VerifiesFile (board : Board) (state : UpgradeState) (event : UpgradeEvent) : Prop :=
  ∀ next, upgradeStep board state event next →
    ∀ call ∈ verifyCall state event, ReadsFile board call.1 call.2

/-- The header `Content-Range` names a length. -/
def NamesLength (pdata : List UInt8) (len : Nat) : Prop :=
  ∃ t1 t2 t3, strstr pdata (asciiBytes "Content-Range") = some t1 ∧
    strstr (pdata.drop t1) (asciiBytes "/") = some t2 ∧
    strstr (pdata.drop (t1 + t2)) (asciiBytes "\r\n") = some t3 ∧
    t1 + t2 + t3 < len ∧ 0 ≤ atoi (pdata.drop (t1 + t2 + 1))

theorem names_length_iff : NamesLength pdata len ↔ 0 ≤ getUserBinLength pdata len := by
  constructor
  · rintro ⟨t1, t2, t3, first, second, third, inside, positive⟩
    unfold getUserBinLength
    rw [first]
    dsimp only
    rw [if_neg (by omega), second]
    dsimp only
    rw [if_neg (by omega), third]
    dsimp only
    rw [if_neg (by omega)]
    exact positive
  · intro positive
    have absent : ¬(0 : Int) ≤ -1 := by decide
    unfold getUserBinLength at positive
    split at positive
    · exact absurd positive absent
    · rename_i t1 first
      split_ifs at positive with before
      · exact absurd positive absent
      · split at positive
        · exact absurd positive absent
        · rename_i t2 second
          split_ifs at positive with before
          · exact absurd positive absent
          · split at positive
            · exact absurd positive absent
            · rename_i t3 third
              split_ifs at positive with inside
              · exact absurd positive absent
              · exact ⟨t1, t2, t3, first, second, third, Nat.lt_of_not_le inside, positive⟩

/-- What is stored belongs to a file whose length a response has named. -/
def StoresNamed (state : UpgradeState) (event : UpgradeEvent) : Prop :=
  ReachesFlash state event → Stores state event = true →
    match event with
    | .package pdata len _ _ =>
        if state.started then 0 ≤ state.upgradeFile.fileLength else NamesLength pdata len
    | _ => True

/-- The first response of a download names a length. -/
def FirstNamed (state : UpgradeState) (event : UpgradeEvent) : Prop :=
  match event with
  | .package pdata len true _ => state.started = false → NamesLength pdata len
  | _ => True

/-- A length that no response has named is that of no file that is stored. -/
structure Lengths (board : Board) (state : UpgradeState) : Prop where
  fresh : state.started = false → state.upgradeFile.downloadedLength = 0
  least : -2147483648 ≤ state.upgradeFile.fileLength
  most : state.started = true → state.upgradeFile.fileLength ≤ upgradeBinMaxLen
  unnamed : state.upgradeFile.fileLength < 0 → state.halted = none →
    state.upgradeFile.downloadedLength = 0
  sector : ∀ info, state.info = some info → info.sector = binStartSector board.currentBin

theorem lengths_same (lengths : Lengths board state)
    (file : next.upgradeFile.fileLength = state.upgradeFile.fileLength)
    (downloaded : next.upgradeFile.downloadedLength = state.upgradeFile.downloadedLength)
    (started : next.started = state.started) (info : next.info = state.info)
    (running : state.halted = none) : Lengths board next where
  fresh := by
    rw [started, downloaded]
    exact lengths.fresh
  least := by
    rw [file]
    exact lengths.least
  most := by
    rw [started, file]
    exact lengths.most
  unnamed := by
    rw [file, downloaded]
    exact fun negative _ => lengths.unnamed negative running
  sector := by
    rw [info]
    exact lengths.sector

/-- A download that has no response yet. -/
theorem lengths_reset (started : next.started = false) (zero : next.upgradeFile = .zero)
    (sector : ∀ info, next.info = some info → info.sector = binStartSector board.currentBin) :
    Lengths board next where
  fresh _ := by
    rw [zero]
    rfl
  least := by
    rw [zero]
    decide
  most := by
    rw [started]
    exact fun absent => Bool.noConfusion absent
  unnamed _ _ := by
    rw [zero]
    rfl
  sector := sector

theorem atoi_ge (memory : List UInt8) : -2147483648 ≤ atoi memory := by
  unfold atoi clampInt
  split <;> exact le_max_left _ _

theorem user_bin_length_ge (pdata : List UInt8) (len : Nat) :
    -2147483648 ≤ getUserBinLength pdata len := by
  unfold getUserBinLength
  split
  · decide
  · split_ifs
    · decide
    · split
      · decide
      · split_ifs
        · decide
        · split
          · decide
          · split_ifs
            · decide
            · exact atoi_ge _

theorem take_file_length_halted (state : UpgradeState) (pdata : List UInt8) (len : Nat) :
    (takeFileLength state pdata len).halted = state.halted := by
  obtain ⟨started, length, same⟩ := take_file_length_eq state pdata len
  rw [same]

theorem lengths_take (lengths : Lengths board state) (pdata : List UInt8) (len : Nat) :
    Lengths board (takeFileLength state pdata len) := by
  unfold takeFileLength
  split_ifs with begun
  · exact lengths
  · rw [Bool.not_eq_true] at begun
    exact ⟨fun _ => lengths.fresh begun, user_bin_length_ge pdata len, of_decide_eq_true,
      fun _ _ => lengths.fresh begun, lengths.sector⟩

section Steps

variable {src : List UInt8} {count : Nat}

theorem count_downloaded (state : UpgradeState) (info : UpgradeInfo) (src : List UInt8)
    (count : Nat) : (countStore state info src count).upgradeFile.downloadedLength =
      sint32 (state.upgradeFile.downloadedLength + count) :=
  rfl

theorem attempt_count (attempt : flashAttempt state pdata len true = some (info, src, count)) :
    count ≤ sectorSize := by
  obtain ⟨-, found, parsed, -, rfl⟩ := attempt_data attempt
  exact package_data_le parsed

/-- With a length below nought the first sector is the last one, and the loop does not end. -/
theorem stored_unnamed (lengths : Lengths board state) (running : state.halted = none)
    (attempt : flashAttempt state pdata len true = some (info, src, count))
    (unnamed : (takeFileLength state pdata len).upgradeFile.fileLength < 0) :
    let stored := countStore (takeFileLength state pdata len) info src count
    stored.upgradeFile.fileLength ≤ stored.upgradeFile.downloadedLength ∧
      65536 ≤ fileSize stored / sectorSize := by
  have taken := lengths_take lengths pdata len
  have running' := (take_file_length_halted state pdata len).trans running
  have zero := taken.unnamed unnamed running'
  have least := taken.least
  have short := attempt_count attempt
  have file : (countStore (takeFileLength state pdata len) info src count).upgradeFile.fileLength =
      (takeFileLength state pdata len).upgradeFile.fileLength := rfl
  dsimp only
  constructor
  · rw [count_downloaded, file, zero, Int.zero_add]
    have number : sint32 (count : Int) = count := by
      unfold sectorSize at short
      unfold sint32
      omega
    rw [number]
    omega
  · rw [fileSize, file]
    generalize (takeFileLength state pdata len).upgradeFile.fileLength = length at unnamed least
    unfold uint32 sectorSize
    omega

theorem finish_endless (state : UpgradeState) (info : UpgradeInfo)
    (whole : state.upgradeFile.fileLength ≤ state.upgradeFile.downloadedLength)
    (many : 65536 ≤ fileSize state / sectorSize) :
    finishStore board state info = halt state .endlessLoop := by
  rw [finishStore, if_pos whole, verify_none many]

theorem lengths_stored (lengths : Lengths board state) (running : state.halted = none)
    (attempt : flashAttempt state pdata len true = some (info, src, count)) :
    Lengths board
      (finishStore board (countStore (takeFileLength state pdata len) info src count) info) := by
  have taken := lengths_take lengths pdata len
  have begun := (attempt_data attempt).1
  have same := finish_same board (countStore (takeFileLength state pdata len) info src count) info
  refine ⟨?_, ?_, ?_, ?_, ?_⟩
  · rw [same.started]
    intro fresh
    exact Bool.noConfusion (fresh.symm.trans begun)
  · rw [same.upgradeFile]
    exact taken.least
  · rw [same.upgradeFile]
    exact fun _ => taken.most begun
  · rw [same.upgradeFile]
    intro unnamed alive
    rcases stored_unnamed lengths running attempt unnamed with ⟨whole, many⟩
    rw [finish_endless _ info whole many] at alive
    cases alive
  · rw [same.info]
    exact taken.sector

theorem lengths_quiet (lengths : Lengths board state) (running : state.halted = none)
    (quiet : QuietKind state event next) : Lengths board next := by
  cases quiet with
  | kept frame enters asks =>
      exact lengths_same lengths (by rw [frame.upgradeFile]) (by rw [frame.upgradeFile])
        frame.started frame.info running
  | entered returns rest same waits taken =>
      have kept := start_kept { state with inbox := rest } returns
      rw [taken]
      apply lengths_reset kept.started kept.upgradeFile
      rw [kept.info]
      exact lengths.sector
  | asked returns rest same waits taken =>
      rw [taken]
      rcases download_cases { state with inbox := rest } returns.sendOk with ⟨-, kept⟩ | halted
      · apply lengths_same lengths _ _ kept.started kept.info running
        · rw [kept.upgradeFile]
          rfl
        · rw [kept.upgradeFile]
          rfl
      · rw [halted]
        exact lengths_same lengths rfl rfl rfl rfl running
  | measured pdata len result same frame =>
      have taken := lengths_take lengths pdata len
      have running' := (take_file_length_halted state pdata len).trans running
      exact lengths_same taken (by rw [frame.upgradeFile]) (by rw [frame.upgradeFile])
        frame.started frame.info running'

/-- A stopped download is set back, or there is no record of it. -/
theorem stop_cases (state : UpgradeState) (errorCode : Nat) :
    iotgoUpgradeStop state errorCode = halt state .nullPointer ∨
      ((iotgoUpgradeStop state errorCode).started = false ∧
        (iotgoUpgradeStop state errorCode).upgradeFile = .zero) := by
  unfold iotgoUpgradeStop
  split
  · exact .inl rfl
  · exact .inr ⟨rfl, rfl⟩

theorem lengths_stopped (lengths : Lengths board state) (errorCode : Nat) :
    Lengths board (iotgoUpgradeStop state errorCode) := by
  rcases stop_cases state errorCode with missing | ⟨started, zero⟩
  · rw [missing]
    refine ⟨lengths.fresh, lengths.least, lengths.most, fun _ alive => ?_, lengths.sector⟩
    cases alive
  · apply lengths_reset started zero
    rw [stop_info]
    intro record held
    cases held

theorem lengths_step (lengths : Lengths board state) (step : upgradeStep board state event next) :
    Lengths board next := by
  have running := step.1
  cases step_kind step with
  | untouched quiet misses stays => exact lengths_quiet lengths running quiet
  | requested info memory same taken =>
      have sector := @request_info board state info memory
      rw [← taken] at sector
      unfold iotgoUpgradeProcessRequest at taken
      split at taken
      · subst taken
        exact ⟨lengths.fresh, lengths.least, lengths.most, fun negative _ =>
          lengths.unnamed negative running, sector⟩
      · subst taken
        refine ⟨lengths.fresh, lengths.least, lengths.most, fun _ alive => ?_, sector⟩
        cases alive
  | stopped returns errorCode rest same waits taken =>
      rw [taken]
      apply lengths_stopped
      exact lengths_same lengths rfl rfl rfl rfl running
  | stored pdata len info src count same attempt present taken =>
      rw [taken]
      exact lengths_stored lengths running attempt
  | failed pdata len info src count left same attempt present taken =>
      have measured := lengths_take lengths pdata len
      have kept := fail_kept (takeFileLength state pdata len) info src left
      have running' := (take_file_length_halted state pdata len).trans running
      rw [taken]
      exact lengths_same measured (by rw [kept.upgradeFile]; rfl) (by rw [kept.upgradeFile]; rfl)
        kept.started kept.info running'

theorem take_named_iff : (if state.started then 0 ≤ state.upgradeFile.fileLength
      else NamesLength pdata len) ↔
    0 ≤ (takeFileLength state pdata len).upgradeFile.fileLength := by
  unfold takeFileLength
  split
  · exact Iff.rfl
  · exact names_length_iff

theorem verify_call_some (attempt : flashAttempt state pdata len true = some (info, src, count))
    (whole : (takeFileLength state pdata len).upgradeFile.fileLength ≤
      (countStore (takeFileLength state pdata len) info src count).upgradeFile.downloadedLength) :
    verifyCall state (.package pdata len true .ok) =
      some (countStore (takeFileLength state pdata len) info src count, info) := by
  rw [verifyCall, attempt, Option.bind_some]
  exact if_pos whole

/-- A length that is known and that is not too large for the region. -/
theorem named_reads (lengths : Lengths board state)
    (attempt : flashAttempt state pdata len true = some (info, src, count))
    (held : state.info = some info)
    (named : 0 ≤ (takeFileLength state pdata len).upgradeFile.fileLength) :
    ReadsFile board (countStore (takeFileLength state pdata len) info src count) info := by
  have taken := lengths_take lengths pdata len
  have most := taken.most (attempt_data attempt).1
  have sector := lengths.sector info held
  have size : fileSize (countStore (takeFileLength state pdata len) info src count) =
      (takeFileLength state pdata len).upgradeFile.fileLength.toNat := by
    change uint32 (takeFileLength state pdata len).upgradeFile.fileLength = _
    unfold upgradeBinMaxLen at most
    unfold uint32
    omega
  have few : fileSize (countStore (takeFileLength state pdata len) info src count) / sectorSize <
      65536 := by
    rw [size]
    unfold upgradeBinMaxLen at most
    unfold sectorSize
    omega
  rcases verify_exits_iff.2 few with ⟨read, ends⟩
  refine ⟨read, ends, named, ?_⟩
  rw [verify_exits_read ends, size, sector]
  rfl

/-- One step: the loop ends and reads the file exactly where a response has named its length. -/
theorem verifies_iff (lengths : Lengths board state) :
    VerifiesFile board state event ↔ StoresNamed state event := by
  constructor
  · intro verifies reaches stores
    cases event with
    | package pdata len flag result =>
        cases result with
        | error left => cases stores
        | ok =>
            rcases Option.isSome_iff_exists.1 stores with ⟨⟨info, src, count⟩, attempt⟩
            have whole := (package_attempt board .ok attempt).1
            subst whole
            rcases reached_next board reaches with ⟨next, step⟩
            change if state.started then 0 ≤ state.upgradeFile.fileLength else NamesLength pdata len
            rw [take_named_iff]
            by_contra unnamed
            rcases stored_unnamed lengths reaches.1 attempt (Int.lt_of_not_ge unnamed) with
              ⟨enough, many⟩
            rcases verifies next step _ (verify_call_some attempt enough) with ⟨read, ends, -⟩
            exact verify_endless many ends
    | request info memory => trivial
    | enterTimer => trivial
    | handle returns => trivial
    | connectServerAgainTimer connectOk => trivial
    | progressTimer => trivial
    | connected => trivial
    | lost => trivial
    | post signal => trivial
  · intro named next step call member
    unfold verifyCall at member
    split at member
    · rename_i pdata len flag
      rcases Option.bind_eq_some_iff.1 member with ⟨⟨info, src, count⟩, attempt, called⟩
      have stores : Stores state (.package pdata len flag .ok) = true :=
        Option.isSome_iff_exists.2 ⟨_, attempt⟩
      rcases package_attempt board .ok attempt with ⟨whole, held, -⟩
      subst whole
      dsimp only at called
      split at called
      · cases called
        apply named_reads lengths attempt held
        rw [← take_named_iff]
        exact named (stores_reaches step stores) stores
      · cases called
    · cases member

end Steps

end Calls

section Runs

variable {board : Board} {state next : UpgradeState} {event : UpgradeEvent}

/-- The length is one that a response has named. -/
structure Named (board : Board) (state : UpgradeState) : Prop where
  lengths : Lengths board state
  named : state.started = true → 0 ≤ state.upgradeFile.fileLength

theorem lengths_initial (board : Board) (flash : Flash) : Lengths board (.initial flash) := by
  apply lengths_reset
  · rfl
  · rfl
  · intro info present
    cases present

/-- The length is kept, a whole package has told it, or no download has begun. -/
inductive LengthFrom (state : UpgradeState) (event : UpgradeEvent) (next : UpgradeState) : Prop where
  | kept (started : next.started = state.started)
      (length : next.upgradeFile.fileLength = state.upgradeFile.fileLength)
  | told (pdata : List UInt8) (len : Nat) (result : FlashResult)
      (same : event = .package pdata len true result)
      (length : next.upgradeFile.fileLength = (takeFileLength state pdata len).upgradeFile.fileLength)
  | fresh (started : next.started = false)

theorem length_from (step : upgradeStep board state event next) : LengthFrom state event next := by
  cases step_kind step with
  | untouched quiet misses stays =>
      cases quiet with
      | kept frame enters asks => exact .kept frame.started (by rw [frame.upgradeFile])
      | entered returns rest same waits taken =>
          rw [taken]
          exact .fresh (start_kept { state with inbox := rest } returns).started
      | asked returns rest same waits taken =>
          rw [taken]
          rcases download_cases { state with inbox := rest } returns.sendOk with ⟨-, kept⟩ | halted
          · refine .kept kept.started ?_
            rw [kept.upgradeFile]
            rfl
          · rw [halted]
            exact .kept rfl rfl
      | measured pdata len result same frame =>
          exact .told pdata len result same (by rw [frame.upgradeFile])
  | requested info memory same taken =>
      unfold iotgoUpgradeProcessRequest at taken
      split at taken
      · subst taken
        exact .kept rfl rfl
      · subst taken
        exact .kept rfl rfl
  | stopped returns errorCode rest same waits taken =>
      rw [taken]
      rcases stop_cases { state with inbox := rest } errorCode with missing | ⟨started, -⟩
      · rw [missing]
        exact .kept rfl rfl
      · exact .fresh started
  | stored pdata len info src count same attempt present taken =>
      have kept := finish_same board
        (countStore (takeFileLength state pdata len) info src count) info
      rw [taken]
      exact .told pdata len .ok same (by rw [kept.upgradeFile]; rfl)
  | failed pdata len info src count left same attempt present taken =>
      have kept := fail_kept (takeFileLength state pdata len) info src left
      rw [taken]
      exact .told pdata len (.error left) same (by rw [kept.upgradeFile]; rfl)

theorem named_step (named : Named board state) (first : FirstNamed state event)
    (step : upgradeStep board state event next) : Named board next := by
  refine ⟨lengths_step named.lengths step, fun begun => ?_⟩
  cases length_from step with
  | kept started length =>
      rw [length]
      exact named.named (started.symm.trans begun)
  | told pdata len result same length =>
      subst same
      rw [length, ← take_named_iff]
      split
      · rename_i begun
        exact named.named begun
      · rename_i fresh
        exact first (Bool.not_eq_true _ ▸ fresh)
  | fresh started => exact Bool.noConfusion (started.symm.trans begun)

theorem first_stores (named : Named board state) (first : FirstNamed state event) :
    StoresNamed state event := by
  intro reaches stores
  cases event with
  | package pdata len flag result =>
      have whole : flag = true := by
        rcases Option.isSome_iff_exists.1 reaches.2.2 with ⟨⟨info, src, count⟩, attempt⟩
        exact (package_attempt board result attempt).1
      subst whole
      dsimp only
      split
      · rename_i begun
        exact named.named begun
      · rename_i fresh
        exact first (Bool.not_eq_true _ ▸ fresh)
  | request info memory => trivial
  | enterTimer => trivial
  | handle returns => trivial
  | connectServerAgainTimer connectOk => trivial
  | progressTimer => trivial
  | connected => trivial
  | lost => trivial
  | post signal => trivial

/-- In every run the loop of the verification ends and has read the file if and only if what is
stored is that of a file whose length has been named, as it is where every first response of a
download names one. -/
theorem verification_ends_iff (board : Board) (flash : Flash) (events : List UpgradeEvent) :
    (Meets (upgradeStep board) (VerifiesFile board) (.initial flash) events ↔
      Meets (upgradeStep board) StoresNamed (.initial flash) events) ∧
    (Meets (upgradeStep board) FirstNamed (.initial flash) events →
      Meets (upgradeStep board) (VerifiesFile board) (.initial flash) events) := by
  have agree : ∀ state event, Lengths board state →
      (VerifiesFile board state event ↔ StoresNamed state event) :=
    fun _ _ lengths => verifies_iff lengths
  constructor
  · apply meets_congr (Lengths board) agree
    · exact fun _ _ _ lengths _ step => lengths_step lengths step
    · exact lengths_initial board flash
  · apply meets_imp (Named board)
    · exact fun _ _ named first => (verifies_iff named.lengths).2 (first_stores named first)
    · exact fun _ _ _ named first step => named_step named first step
    · refine ⟨lengths_initial board flash, fun begun => ?_⟩
      cases begun

/-- A request, and the download that it starts. -/
def begunDownload : List UpgradeEvent :=
  [.request anyUpgrade true, .enterTimer, .handle allReturns, .connected, .handle allReturns]

/-- A response with no `Content-Range`. -/
def unnamedAnswer : UpgradeEvent :=
  let pdata := asciiBytes "HTTP/1.1 206 Partial Content\r\nContent-Length: 2\r\n\r\nhi"
  .package pdata pdata.length true .ok

theorem meets_last {State Event : Type*} {step : State → Event → State → Prop}
    {condition : State → Event → Prop} {state middle : State} {front : List Event} {event : Event}
    (met : Meets step condition state (front ++ [event])) (run : Run step state front middle) :
    condition middle event := by
  induction run with
  | nil => exact met.1
  | cons first _ ih => exact ih (met.2 _ first)

theorem unnamed_reached :
    ((execRun (runExec firstBoard) (.initial fun _ => 0xFF) begunDownload).any fun state =>
      decide (ReachesFlash state unnamedAnswer) && Stores state unnamedAnswer &&
        !state.started) = true := by
  decide +kernel

theorem unnamed_answer_unnamed (state : UpgradeState) (reaches : ReachesFlash state unnamedAnswer)
    (stores : Stores state unnamedAnswer = true) (fresh : state.started = false) :
    ¬StoresNamed state unnamedAnswer := by
  intro named
  have given := named reaches stores
  unfold unnamedAnswer at given
  dsimp only at given
  rw [fresh, if_neg Bool.false_ne_true, names_length_iff] at given
  exact absurd given (by decide)

/-- The length is -1, and the loop does not end. -/
theorem unnamed_never_ends :
    ¬Meets (upgradeStep firstBoard) (VerifiesFile firstBoard) (.initial fun _ => 0xFF)
        (begunDownload ++ [unnamedAnswer]) := by
  intro met
  obtain ⟨state, run, checked⟩ := exists_run_of_exec (run_exec_sound firstBoard) unnamed_reached
  rw [Bool.and_eq_true, Bool.and_eq_true, decide_eq_true_eq, Bool.not_eq_true'] at checked
  obtain ⟨⟨reaches, stores⟩, fresh⟩ := checked
  have lengths : Lengths firstBoard state :=
    run_keeps (Lengths firstBoard) (fun _ _ _ => lengths_step) (lengths_initial firstBoard _) run
  exact unnamed_answer_unnamed state reaches stores fresh
    ((verifies_iff lengths).1 (meets_last met run))

end Runs

end IotgoFirmware.Upgrade.UpgradeVerify
