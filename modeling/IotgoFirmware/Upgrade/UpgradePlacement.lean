import IotgoFirmware.Upgrade.UpgradeRegion

/-!
# Where the ranges of a file are stored

The range that is asked for comes from `couter`, the sector that an answer goes to
from the sector index, and nothing ties an answer to the range it was asked for. Two
requests on their way, or a download that starts while another one is stored, part
the two. Where every answer that is stored is the only one to the last request, and no
download starts before the end of one that has stored something, each sector holds its
range.
-/

namespace IotgoFirmware.Upgrade.UpgradePlacement

open IotgoFirmware.Library.CIntegers
open IotgoFirmware.Library.CStrings
open IotgoFirmware.Library.NorFlash
open IotgoFirmware.Library.StepRuns
open IotgoFirmware.Upgrade.UpgradeRegion
open IotgoFirmware.Upgrade.UpgradeSession
open IotgoFirmware.Upgrade.UpgradeSteps

set_option autoImplicit false

/-- An event; where it is a package, `range` is what the server answers. -/
structure Input where
  event : UpgradeEvent
  range : Nat × Nat

/-- A device, the sector index and `couter` at every request that it has built, and where
the ranges start that this download has stored. -/
structure Download where
  state : UpgradeState
  built : List (Nat × Nat)
  starts : List Nat

def Download.initial (flash : Flash) : Download where
  state := .initial flash
  built := []
  starts := []

def builtAfter (download : Download) (event : UpgradeEvent) : List (Nat × Nat) :=
  if handled download.state event = some .getUpgradeData then
    download.built ++ [(download.state.flashSectorIndex, download.state.upgradeFile.couter)]
  else download.built

def Stores (state : UpgradeState) : UpgradeEvent → Bool
  | .package pdata len flag .ok => (flashAttempt state pdata len flag).isSome
  | _ => false

/-- A download is over when another one starts, or when its end is handled. -/
def Ends (state : UpgradeState) (event : UpgradeEvent) : Bool :=
  match handled state event with
  | some .upgradeEnter => true
  | some (.upgradeExit _) => state.info.isSome
  | _ => false

def startsAfter (download : Download) (input : Input) : List Nat :=
  if Stores download.state input.event then download.starts ++ [input.range.1]
  else if Ends download.state input.event then [] else download.starts

def downloadStep (board : Board) (download : Download) (input : Input) (next : Download) : Prop :=
  upgradeStep board download.state input.event next.state ∧
    next.built = builtAfter download input.event ∧ next.starts = startsAfter download input

def rangeBytes (file : List UInt8) (range : Nat × Nat) : List UInt8 :=
  (file.drop range.1).take (range.2 + 1 - range.1)

def wholePackage : UpgradeEvent → Option (List UInt8 × Nat)
  | .package pdata len true _ => some (pdata, len)
  | _ => none

/-- A whole package names the length of the file, and its data is that of a range that has
been asked for. -/
def ServerAnswers (file : List UInt8) (download : Download) (input : Input) : Prop :=
  ∀ package ∈ wholePackage input.event,
    getUserBinLength package.1 package.2 = file.length ∧
      ∀ found ∈ packageData package.1 package.2,
        .request input.range.1 input.range.2 ∈ download.state.log ∧
          found.1 = (rangeBytes file input.range).length ∧
          packageBytes package.1 found = rangeBytes file input.range

instance (file : List UInt8) (download : Download) (input : Input) :
    Decidable (ServerAnswers file download input) :=
  inferInstanceAs (Decidable (∀ package ∈ wholePackage input.event, _))

/-- A download, where the range starts that has been asked for and has had no answer stored, and
whether anything has been stored since the last end of a download. -/
structure Exchange where
  download : Download
  asked : Option Nat
  stored : Bool

def Exchange.initial (flash : Flash) : Exchange where
  download := .initial flash
  asked := none
  stored := false

/-- Every request takes the place of the one before it, and an answer that is stored that of its
request. The end of a download that has stored something leaves no request open. -/
def askedAfter (exchange : Exchange) (event : UpgradeEvent) : Option Nat :=
  if handled exchange.download.state event = some .getUpgradeData then
    some (rangeStart exchange.download.state)
  else if Stores exchange.download.state event then none
  else if Ends exchange.download.state event ∧ exchange.stored then none
  else exchange.asked

def storedAfter (exchange : Exchange) (event : UpgradeEvent) : Bool :=
  if Stores exchange.download.state event then true
  else
    match handled exchange.download.state event with
    | some (.upgradeExit _) => exchange.stored && exchange.download.state.info.isNone
    | _ => exchange.stored

def exchangeStep (board : Board) (exchange : Exchange) (input : Input) (next : Exchange) : Prop :=
  downloadStep board exchange.download input next.download ∧
    next.asked = askedAfter exchange input.event ∧ next.stored = storedAfter exchange input.event

/-- What is stored is the answer to the last request, which has had none before, and the range
begins within the file. A download starts only if nothing has been stored since the end of the
one before. -/
def InTurn (file : List UInt8) (exchange : Exchange) (input : Input) : Prop :=
  (Stores exchange.download.state input.event = true →
      exchange.asked = some input.range.1 ∧ input.range.1 < file.length) ∧
    (handled exchange.download.state input.event = some .upgradeEnter → exchange.stored = false)

instance (file : List UInt8) (exchange : Exchange) (input : Input) :
    Decidable (InTurn file exchange input) :=
  inferInstanceAs (Decidable ((_ → _) ∧ (_ → _)))

/-- The bytes of the file that belong in a sector. -/
def fileSector (file : List UInt8) (index : Nat) : List UInt8 :=
  (file.drop (index * sectorSize)).take sectorSize

/-- The index is `couter` whenever a request is built, the sectors below it hold the file,
and each of its ranges has been stored once. -/
structure Placed (file : List UInt8) (download : Download) : Prop where
  index : ∀ pair ∈ download.built, pair.1 = pair.2
  sectors : ∀ info, download.state.info = some info →
    ∀ k < download.state.upgradeFile.couter,
      readAt download.state.flash ((info.sector + k) * sectorSize)
        (min sectorSize (file.length - k * sectorSize)) = fileSector file k
  once : download.starts =
    (List.range download.state.upgradeFile.couter).map fun k => k * sectorSize
  ranges : ∀ start ∈ download.starts, start < file.length

section Files

variable {file : List UInt8}

theorem file_sector_length (file : List UInt8) (k : Nat) :
    (fileSector file k).length = min sectorSize (file.length - k * sectorSize) := by
  rw [fileSector, List.length_take, List.length_drop]

theorem user_bin_length_le (pdata : List UInt8) (len : Nat) :
    getUserBinLength pdata len ≤ 2147483647 := by
  unfold getUserBinLength
  split
  · decide
  · split_ifs
    · decide
    · split
      · decide
      · split_ifs
        · decide
        · split
          · decide
          · split_ifs
            · decide
            · exact atoi_le _

/-- The length is not known yet, or it is that of the file. -/
def Measured (file : List UInt8) (state : UpgradeState) : Prop :=
  state.upgradeFile.fileLength = 0 ∨
    (state.upgradeFile.fileLength = file.length ∧ file.length ≤ 2147483647)

/-- What `iotgoUpgradeDownload` asks for is a sector of the file. -/
theorem asked_bytes {state : UpgradeState} (measured : Measured file state)
    (few : state.upgradeFile.couter ≤ regionSectors) :
    rangeBytes file (rangeStart state, rangeEnd state) =
      (file.drop (rangeStart state)).take sectorSize := by
  unfold regionSectors at few
  have start : rangeStart state = state.upgradeFile.couter * 4096 := by
    unfold rangeStart uint32
    omega
  have stop : rangeEnd state =
      if uint32 (state.upgradeFile.fileLength - 1) ≤ rangeStart state + 4095 then
        uint32 (state.upgradeFile.fileLength - 1)
      else rangeStart state + 4095 := by
    have small : uint32 ((rangeStart state : Int) + 4095) = rangeStart state + 4095 := by
      rw [start]
      unfold uint32
      omega
    unfold rangeEnd
    rw [small]
  unfold rangeBytes
  dsimp only
  rw [stop]
  split_ifs with last
  · -- the range ends with the file
    have ends : uint32 (state.upgradeFile.fileLength - 1) + 1 = file.length := by
      unfold uint32 at last ⊢
      rcases measured with unknown | ⟨known, short⟩ <;> omega
    rw [ends, List.take_of_length_le, List.take_of_length_le]
    · rw [List.length_drop, sectorSize]
      omega
    · rw [List.length_drop]
  · have whole : rangeStart state + 4095 + 1 - rangeStart state = sectorSize := by
      rw [sectorSize]
      omega
    rw [whole]

end Files

section Sectors

variable {flash left : Flash} {sector other size : Nat} {src : List UInt8}

/-- A sector that is stored, or fails, leaves the others alone. -/
theorem flash_one_sector_byte {address : Nat} (result : FlashResult)
    (short : src.length ≤ sectorSize) (apart : address / sectorSize ≠ sector) :
    flashOneSector flash sector src result address = flash address := by
  cases result with
  | ok =>
      apply ops_untouched
      intro op member touches
      rcases List.mem_cons.1 member with rfl | member
      · exact apart touches
      · rw [List.mem_singleton.1 member] at touches
        exact apart (write_in_sector short touches)
  | error left => exact if_neg apart

theorem flash_one_sector_other (result : FlashResult) (short : src.length ≤ sectorSize)
    (apart : other ≠ sector) (inside : size ≤ sectorSize) :
    readAt (flashOneSector flash sector src result) (other * sectorSize) size =
      readAt flash (other * sectorSize) size := by
  apply read_at_congr
  intro address low high
  obtain ⟨offset, rfl⟩ := Nat.exists_eq_add_of_le low
  have there : (other * sectorSize + offset) / sectorSize = other := in_sector (by omega)
  apply flash_one_sector_byte result short
  rw [there]
  exact apart

theorem sector_image_length {bytes : List UInt8} (short : bytes.length ≤ sectorSize) :
    (sectorImage bytes).length = sectorSize := by
  rw [sectorImage, List.length_append, List.length_replicate]
  omega

/-- A sector that has been stored begins with the data. -/
theorem flash_one_sector_read (flash : Flash) (sector : Nat) {bytes : List UInt8}
    (short : bytes.length ≤ sectorSize) :
    readAt (flashOneSector flash sector (sectorImage bytes) .ok) (sector * sectorSize)
      bytes.length = bytes := by
  have whole := sector_image_length short
  apply read_at_eq
  intro offset inside
  have written : runOps [.erase sector, .write (sector * sectorSize) (sectorImage bytes)] flash
      (sector * sectorSize + offset) = (sectorImage bytes).getD offset 0 :=
    erase_write_byte (by omega) (by omega)
  rw [flashOneSector, written, sectorImage, List.getD_append _ _ _ _ inside]

end Sectors

section Invariant

variable {board : Board} {file : List UInt8} {state next : UpgradeState}
  {built : List (Nat × Nat)} {starts : List Nat}

/-- What holds while every answer is stored in order. -/
structure Aligned (board : Board) (file : List UInt8) (download : Download) : Prop where
  sector : ∀ info, download.state.info = some info →
    info.sector = binStartSector board.currentBin
  index : download.state.flashSectorIndex = download.state.upgradeFile.couter
  built : ∀ pair ∈ download.built, pair.1 = pair.2
  sectors : ∀ k < download.state.upgradeFile.couter,
    readAt download.state.flash ((binStartSector board.currentBin + k) * sectorSize)
      (min sectorSize (file.length - k * sectorSize)) = fileSector file k
  once : download.starts =
    (List.range download.state.upgradeFile.couter).map fun k => k * sectorSize
  ranges : ∀ start ∈ download.starts, start < file.length
  measured : Measured file download.state
  fits : download.state.started = true → file.length ≤ regionSectors * sectorSize
  few : download.state.upgradeFile.couter ≤ regionSectors
  asked : ∀ start stop, .request start stop ∈ download.state.log →
    rangeBytes file (start, stop) = (file.drop start).take sectorSize

/-- The range that is stored is that of the next sector, and a download starts with the sector
index at nought. -/
def InOrder (file : List UInt8) (download : Download) (input : Input) : Prop :=
  (Stores download.state input.event = true →
      input.range.1 = download.state.upgradeFile.couter * sectorSize ∧
        input.range.1 < file.length) ∧
    (handled download.state input.event = some .upgradeEnter →
      download.state.flashSectorIndex = 0)

theorem aligned_placed {download : Download} (aligned : Aligned board file download) :
    Placed file download where
  index := aligned.built
  sectors := by
    intro info present k below
    rw [aligned.sector info present]
    exact aligned.sectors k below
  once := aligned.once
  ranges := aligned.ranges

/-- What a step that stores nothing leaves as it is. -/
structure SamePlace (before after : UpgradeState) : Prop where
  upgradeFile : after.upgradeFile = before.upgradeFile
  started : after.started = before.started
  index : after.flashSectorIndex = before.flashSectorIndex
  info : after.info = before.info
  flash : after.flash = before.flash
  asked : ∀ start stop, .request start stop ∈ after.log → .request start stop ∈ before.log

theorem kept_same (kept : Kept state next) : SamePlace state next where
  upgradeFile := kept.upgradeFile
  started := kept.started
  index := kept.index
  info := kept.info
  flash := kept.flash
  asked := fun _ _ member => kept.log ▸ member

theorem finish_same (board : Board) (state : UpgradeState) (info : UpgradeInfo) :
    SamePlace state (finishStore board state info) := by
  rcases finish_cases board state info with kept | ⟨-, verified⟩
  · exact kept_same kept
  · obtain ⟨inbox, posted, -⟩ := post_eq (logged state (.verified (binInfo state info)))
      (.upgradeExit upgradeErrorOk)
    rw [verified, posted]
    refine ⟨rfl, rfl, rfl, rfl, rfl, fun start stop member => ?_⟩
    rcases List.mem_append.1 member with before | now
    · exact before
    · cases List.mem_singleton.1 now

theorem aligned_same (same : SamePlace state next)
    (aligned : Aligned board file ⟨state, built, starts⟩) :
    Aligned board file ⟨next, built, starts⟩ where
  sector := by
    rw [same.info]
    exact aligned.sector
  index := by
    rw [same.index, same.upgradeFile]
    exact aligned.index
  built := aligned.built
  sectors := by
    rw [same.flash, same.upgradeFile]
    exact aligned.sectors
  once := by
    rw [same.upgradeFile]
    exact aligned.once
  ranges := aligned.ranges
  measured := by
    rw [Measured, same.upgradeFile]
    exact aligned.measured
  fits := by
    rw [same.started]
    exact aligned.fits
  few := by
    rw [same.upgradeFile]
    exact aligned.few
  asked := fun start stop member => aligned.asked start stop (same.asked start stop member)

/-- The first package of a download tells the length of the file. -/
theorem take_aligned {pdata : List UInt8} {len : Nat}
    (told : getUserBinLength pdata len = file.length)
    (aligned : Aligned board file ⟨state, built, starts⟩) :
    Aligned board file ⟨takeFileLength state pdata len, built, starts⟩ := by
  unfold takeFileLength
  split_ifs with begun
  · exact aligned
  · refine { aligned with measured := ?_, fits := ?_ }
    · have short := user_bin_length_le pdata len
      exact .inr ⟨told, by omega⟩
    · intro small
      have bound : getUserBinLength pdata len ≤ upgradeBinMaxLen := of_decide_eq_true small
      rw [told] at bound
      unfold regionSectors sectorSize
      unfold upgradeBinMaxLen at bound
      omega

/-- A download that starts anew. -/
theorem reset_aligned (index : state.flashSectorIndex = 0) (started : state.started = false)
    (zero : state.upgradeFile = .zero)
    (sector : ∀ info, state.info = some info → info.sector = binStartSector board.currentBin)
    (paired : ∀ pair ∈ built, pair.1 = pair.2)
    (asked : ∀ start stop, .request start stop ∈ state.log →
      rangeBytes file (start, stop) = (file.drop start).take sectorSize) :
    Aligned board file ⟨state, built, []⟩ where
  sector := sector
  index := by rw [index, zero]; rfl
  built := paired
  sectors := by
    intro k below
    rw [zero] at below
    exact absurd below (Nat.not_lt_zero k)
  once := by rw [zero]; rfl
  ranges := by
    intro start member
    cases member
  measured := .inl (by rw [zero]; rfl)
  fits := by
    intro begun
    rw [started] at begun
    cases begun
  few := by
    rw [zero]
    exact Nat.zero_le _
  asked := asked

theorem asked_aligned (sendOk : Bool) (aligned : Aligned board file ⟨state, built, starts⟩) :
    Aligned board file ⟨iotgoUpgradeDownload state sendOk,
      built ++ [(state.flashSectorIndex, state.upgradeFile.couter)], starts⟩ := by
  have paired : ∀ pair ∈ built ++ [(state.flashSectorIndex, state.upgradeFile.couter)],
      pair.1 = pair.2 := by
    intro pair member
    rcases List.mem_append.1 member with before | now
    · exact aligned.built pair before
    · rw [List.mem_singleton.1 now]
      exact aligned.index
  have noted : Aligned board file ⟨ranged state,
      built ++ [(state.flashSectorIndex, state.upgradeFile.couter)], starts⟩ :=
    { aligned with built := paired }
  rcases download_cases state sendOk with ⟨-, kept⟩ | halted
  · refine aligned_same (kept_same kept) { noted with asked := ?_ }
    intro start stop member
    rcases List.mem_append.1 member with before | now
    · exact aligned.asked start stop before
    · cases List.mem_singleton.1 now
      exact asked_bytes aligned.measured aligned.few
  · rw [halted]
    exact { noted with }

/-- The sector that the next answer goes to. -/
theorem next_sector {info : UpgradeInfo} (aligned : Aligned board file ⟨state, built, starts⟩)
    (present : state.info = some info) :
    storeSector state info = binStartSector board.currentBin + state.upgradeFile.couter := by
  have few := aligned.few
  have bound := bin_start_le board.currentBin
  rw [store_sector_eq (aligned.sector info present), aligned.index]
  unfold regionSectors at few
  dsimp only at few ⊢
  omega

theorem sectors_below_apart {info : UpgradeInfo} {src : List UInt8} {k : Nat}
    (aligned : Aligned board file ⟨state, built, starts⟩) (present : state.info = some info)
    (short : src.length ≤ sectorSize) (result : FlashResult)
    (below : k < state.upgradeFile.couter) :
    readAt (flashOneSector state.flash (storeSector state info) src result)
        ((binStartSector board.currentBin + k) * sectorSize)
        (min sectorSize (file.length - k * sectorSize)) = fileSector file k := by
  have apart : binStartSector board.currentBin + k ≠ storeSector state info := by
    rw [next_sector aligned present]
    omega
  rw [flash_one_sector_other result short apart (Nat.min_le_left _ _)]
  exact aligned.sectors k below

/-- An answer in order is stored. -/
theorem count_aligned {info : UpgradeInfo}
    (aligned : Aligned board file ⟨state, built, starts⟩) (present : state.info = some info)
    (begun : state.started = true)
    (inside : state.upgradeFile.couter * sectorSize < file.length) :
    Aligned board file
      ⟨countStore state info (sectorImage (fileSector file state.upgradeFile.couter))
        (fileSector file state.upgradeFile.couter).length, built, starts ++ [state.upgradeFile.couter * sectorSize]⟩ := by
  have fits := aligned.fits begun
  have room : state.upgradeFile.couter < regionSectors := by
    unfold sectorSize at fits inside
    omega
  have counted : uint16 ((state.upgradeFile.couter : Int) + 1) = state.upgradeFile.couter + 1 := by
    unfold regionSectors at room
    unfold uint16
    omega
  have short : (fileSector file state.upgradeFile.couter).length ≤ sectorSize := by
    rw [file_sector_length]
    exact Nat.min_le_left _ _
  refine { aligned with
    index := ?_, sectors := ?_, once := ?_, ranges := ?_, few := ?_, asked := ?_ }
  · exact congrArg (fun index : Nat => uint16 ((index : Int) + 1)) aligned.index
  · intro k below
    change k < uint16 ((state.upgradeFile.couter : Int) + 1) at below
    rw [counted] at below
    rcases Nat.lt_succ_iff_lt_or_eq.1 below with earlier | rfl
    · exact sectors_below_apart aligned present (sector_image_length short).le .ok earlier
    · have read := flash_one_sector_read state.flash (storeSector state info) short
      rw [file_sector_length] at read
      rw [← next_sector aligned present]
      exact read
  · change starts ++ [_] =
      (List.range (uint16 ((state.upgradeFile.couter : Int) + 1))).map fun k => k * sectorSize
    have once : starts = (List.range state.upgradeFile.couter).map fun k => k * sectorSize :=
      aligned.once
    rw [counted, List.range_succ, List.map_append, once]
    rfl
  · intro start member
    rcases List.mem_append.1 member with before | now
    · exact aligned.ranges start before
    · rw [List.mem_singleton.1 now]
      exact inside
  · change uint16 ((state.upgradeFile.couter : Int) + 1) ≤ regionSectors
    rw [counted]
    exact room
  · intro start stop member
    rcases List.mem_append.1 member with before | now
    · exact aligned.asked start stop before
    · cases List.mem_singleton.1 now

theorem spoiled_aligned {info : UpgradeInfo} {src : List UInt8} (left : Flash)
    (aligned : Aligned board file ⟨state, built, starts⟩) (present : state.info = some info)
    (short : src.length ≤ sectorSize) :
    Aligned board file ⟨spoiled state info src left, built, starts⟩ := by
  refine { aligned with sectors := ?_, asked := ?_ }
  · exact fun k => sectors_below_apart aligned present short (.error left)
  · intro start stop member
    rcases List.mem_append.1 member with before | now
    · exact aligned.asked start stop before
    · cases List.mem_singleton.1 now

end Invariant

section Steps

variable {board : Board} {file : List UInt8} {download next : Download} {input : Input}

/-- The package data that reaches the flash. -/
theorem attempt_data {state : UpgradeState} {pdata : List UInt8} {len : Nat} {flag : Bool}
    {info : UpgradeInfo} {src : List UInt8} {count : Nat}
    (attempt : flashAttempt state pdata len flag = some (info, src, count)) :
    (takeFileLength state pdata len).started = true ∧
      ∃ found ∈ packageData pdata len, src = sectorImage (packageBytes pdata found) ∧
        count = found.1 := by
  unfold flashAttempt at attempt
  split_ifs at attempt with reached
  obtain ⟨found, parsed, mapped⟩ := Option.bind_eq_some_iff.1 attempt
  obtain ⟨record, -, same⟩ := Option.map_eq_some_iff.1 mapped
  cases same
  exact ⟨reached.2.1, found, parsed, rfl, rfl⟩

theorem package_data_le {pdata : List UInt8} {len : Nat} {found : Nat × Nat}
    (parsed : found ∈ packageData pdata len) : found.1 ≤ sectorSize := by
  unfold packageData at parsed
  split at parsed
  · cases parsed
  · split at parsed
    · cases parsed
    · dsimp only at parsed
      split at parsed
      · cases parsed
      · rename_i large
        split at parsed
        · cases parsed
        · split at parsed
          · cases parsed
          · cases parsed
            exact Nat.le_of_not_lt large

/-- What is stored fills a sector. -/
theorem attempt_image_length {state : UpgradeState} {pdata : List UInt8} {len : Nat} {flag : Bool}
    {info : UpgradeInfo} {src : List UInt8} {count : Nat}
    (attempt : flashAttempt state pdata len flag = some (info, src, count)) :
    src.length = sectorSize := by
  obtain ⟨-, found, parsed, rfl, rfl⟩ := attempt_data attempt
  apply sector_image_length
  rw [packageBytes, List.length_take]
  exact (Nat.min_le_left _ _).trans (package_data_le parsed)

theorem stores_reaches {state state' : UpgradeState} {event : UpgradeEvent}
    (step : upgradeStep board state event state') (stores : Stores state event = true) :
    ReachesFlash state event := by
  obtain ⟨running, computed⟩ := step
  unfold Stores at stores
  split at stores
  · rw [upgradeExec] at computed
    split_ifs at computed with live
    exact ⟨running, live, stores⟩
  · cases stores

theorem built_after_of_ne {event : UpgradeEvent}
    (other : handled download.state event ≠ some .getUpgradeData) :
    builtAfter download event = download.built :=
  if_neg other

/-- Nothing is stored and no download ends. -/
theorem starts_after_quiet (stores : Stores download.state input.event = false)
    (ends : Ends download.state input.event = false) :
    startsAfter download input = download.starts := by
  unfold startsAfter
  rw [stores, ends]
  rfl

theorem not_ends {state : UpgradeState} {event : UpgradeEvent}
    (enters : handled state event ≠ some .upgradeEnter)
    (stays : ∀ errorCode, handled state event ≠ some (.upgradeExit errorCode)) :
    Ends state event = false := by
  unfold Ends
  split
  · rename_i taken
    exact absurd taken enters
  · rename_i errorCode taken
    exact absurd taken (stays errorCode)
  · rfl

theorem built_after_outside {event : UpgradeEvent} (outside : handled download.state event = none) :
    builtAfter download event = download.built := by
  apply built_after_of_ne
  rw [outside]
  exact (Option.some_ne_none _).symm

theorem starts_after_outside (outside : handled download.state input.event = none)
    (stores : Stores download.state input.event = false) :
    startsAfter download input = download.starts := by
  apply starts_after_quiet stores
  rw [Ends, outside]

theorem not_stores {state state' : UpgradeState} {event : UpgradeEvent}
    (step : upgradeStep board state event state') (misses : ¬ ReachesFlash state event) :
    Stores state event = false := by
  by_contra stores
  exact misses (stores_reaches step (Bool.not_eq_false _ ▸ stores))

theorem quiet_aligned (aligned : Aligned board file download)
    (answers : ServerAnswers file download input) (order : InOrder file download input)
    (quiet : QuietKind download.state input.event next.state)
    (stores : Stores download.state input.event = false)
    (stays : ∀ errorCode, handled download.state input.event ≠ some (.upgradeExit errorCode))
    (built : next.built = builtAfter download input.event)
    (starts : next.starts = startsAfter download input) : Aligned board file next := by
  obtain ⟨state, built', starts'⟩ := next
  dsimp only at quiet built starts
  subst built starts
  cases quiet with
  | kept frame enters asks =>
      rw [built_after_of_ne asks, starts_after_quiet stores (not_ends enters stays)]
      exact aligned_same (kept_same frame) aligned
  | entered returns rest same waits taken =>
      have enters : handled download.state input.event = some .upgradeEnter := by
        rw [same]
        exact handled_of_waits waits
      have fresh : startsAfter download input = [] := by
        have ends : Ends download.state input.event = true := by rw [Ends, enters]
        unfold startsAfter
        rw [stores, ends]
        rfl
      have other : handled download.state input.event ≠ some .getUpgradeData := by
        rw [enters]
        decide
      rw [built_after_of_ne other, fresh, taken]
      apply aligned_same (kept_same (start_kept _ returns))
      exact reset_aligned (order.2 enters) rfl rfl aligned.sector aligned.built aligned.asked
  | asked returns rest same waits taken =>
      have asks : handled download.state input.event = some .getUpgradeData := by
        rw [same]
        exact handled_of_waits waits
      have enters : handled download.state input.event ≠ some .upgradeEnter := by
        rw [asks]
        decide
      have popped : Aligned board file ⟨{ download.state with inbox := rest }, download.built,
          download.starts⟩ := { aligned with }
      rw [builtAfter, if_pos asks, starts_after_quiet stores (not_ends enters stays), taken]
      exact asked_aligned returns.sendOk popped
  | measured pdata len result same frame =>
      have outside : handled download.state input.event = none := by rw [same]; rfl
      have told := (answers (pdata, len) (by rw [same]; rfl)).1
      rw [built_after_outside outside, starts_after_outside outside stores]
      exact aligned_same (kept_same frame) (take_aligned told aligned)

theorem stop_missing {state : UpgradeState} (errorCode : Nat) (missing : state.info = none) :
    iotgoUpgradeStop state errorCode = halt state .nullPointer := by
  rw [iotgoUpgradeStop, missing]

theorem stop_file (state : UpgradeState) (errorCode : Nat) (present : state.info.isSome = true) :
    let after := iotgoUpgradeStop state errorCode
    after.flashSectorIndex = 0 ∧ after.started = false ∧ after.upgradeFile = .zero := by
  obtain ⟨info, held⟩ := Option.isSome_iff_exists.1 present
  rw [iotgoUpgradeStop, held]
  exact ⟨rfl, rfl, rfl⟩

theorem stop_asked {state : UpgradeState} {errorCode start stop : Nat}
    (member : .request start stop ∈ (iotgoUpgradeStop state errorCode).log) :
    .request start stop ∈ state.log := by
  unfold iotgoUpgradeStop at member
  split at member
  · exact member
  · dsimp only [iotgoUpgradeFree, resetDownload, logged, recordNewBin] at member
    split at member
    · simpa using member
    · simpa using member

theorem stopped_aligned {state : UpgradeState} {built : List (Nat × Nat)} {starts : List Nat}
    (errorCode : Nat) (aligned : Aligned board file ⟨state, built, starts⟩) :
    Aligned board file ⟨iotgoUpgradeStop state errorCode, built,
      if state.info.isSome then [] else starts⟩ := by
  by_cases present : state.info.isSome = true
  · obtain ⟨index, started, zero⟩ := stop_file state errorCode present
    rw [if_pos present]
    refine reset_aligned index started zero ?_ aligned.built ?_
    · rw [stop_info]
      intro record held
      cases held
    · intro start stop member
      exact aligned.asked start stop (stop_asked member)
  · have missing : state.info = none := Option.not_isSome_iff_eq_none.1 present
    rw [if_neg present, stop_missing errorCode missing]
    exact { aligned with }

theorem requested_aligned {state : UpgradeState} {built : List (Nat × Nat)} {starts : List Nat}
    (info : UpgradeInfo) (memory : Bool) (aligned : Aligned board file ⟨state, built, starts⟩) :
    Aligned board file ⟨iotgoUpgradeProcessRequest board state info memory, built, starts⟩ := by
  have sector : ∀ record,
      (iotgoUpgradeProcessRequest board state info memory).info = some record →
        record.sector = binStartSector board.currentBin := request_info info memory
  unfold iotgoUpgradeProcessRequest at sector ⊢
  split
  · rename_i held
    rw [if_pos held] at sector
    exact { aligned with sector := sector }
  · rename_i held
    rw [if_neg held] at sector
    exact { aligned with sector := sector }

/-- The answer to the range of the next sector is that sector of the file. -/
theorem answer_bytes {state : UpgradeState} {built : List (Nat × Nat)} {starts : List Nat}
    {range : Nat × Nat} (aligned : Aligned board file ⟨state, built, starts⟩)
    (asked : .request range.1 range.2 ∈ state.log)
    (inOrder : range.1 = state.upgradeFile.couter * sectorSize) :
    rangeBytes file range = fileSector file state.upgradeFile.couter := by
  have whole : rangeBytes file range = (file.drop range.1).take sectorSize :=
    aligned.asked range.1 range.2 asked
  rw [whole, inOrder, fileSector]

theorem aligned_step (aligned : Aligned board file download)
    (answers : ServerAnswers file download input) (order : InOrder file download input)
    (step : downloadStep board download input next) : Aligned board file next := by
  obtain ⟨taken, built, starts⟩ := step
  obtain ⟨state, built', starts'⟩ := next
  dsimp only at taken built starts
  cases step_kind taken with
  | untouched quiet misses stays =>
      exact quiet_aligned aligned answers order quiet (not_stores taken misses) stays built starts
  | requested info memory same same' =>
      have outside : handled download.state input.event = none := by rw [same]; rfl
      rw [built_after_outside outside] at built
      rw [starts_after_outside outside (by rw [same]; rfl)] at starts
      rw [built, starts, same']
      exact requested_aligned info memory aligned
  | stopped returns errorCode rest same waits same' =>
      have popped : Aligned board file ⟨{ download.state with inbox := rest }, download.built,
          download.starts⟩ := { aligned with }
      have exits : handled download.state input.event = some (.upgradeExit errorCode) := by
        rw [same]
        exact handled_of_waits waits
      have other : handled download.state input.event ≠ some .getUpgradeData := by
        rw [exits]
        exact fun equal => UpgradeSignal.noConfusion (Option.some.inj equal)
      have ended : startsAfter download input =
          if download.state.info.isSome then [] else download.starts := by
        unfold startsAfter Ends
        rw [exits, same]
        rfl
      rw [built_after_of_ne other] at built
      rw [ended] at starts
      rw [built, starts, same']
      exact stopped_aligned errorCode popped
  | stored pdata len info src count same attempt present same' =>
      have outside : handled download.state input.event = none := by rw [same]; rfl
      have stores : Stores download.state input.event = true := by
        rw [same]
        exact Option.isSome_iff_exists.2 ⟨_, attempt⟩
      obtain ⟨begun, found, parsed, rfl, rfl⟩ := attempt_data attempt
      obtain ⟨inOrder, inside⟩ := order.1 stores
      obtain ⟨told, data⟩ := answers (pdata, len) (by rw [same]; rfl)
      obtain ⟨asked, count, bytes⟩ := data found parsed
      have taken := take_aligned told aligned
      obtain ⟨started, length, measured⟩ := take_file_length_eq download.state pdata len
      have couter : (takeFileLength download.state pdata len).upgradeFile.couter =
          download.state.upgradeFile.couter := by rw [measured]
      have record := (take_file_length_untouched download.state pdata len).info.trans present
      rw [built_after_outside outside] at built
      rw [startsAfter, if_pos stores] at starts
      rw [built, starts, same', count, bytes, answer_bytes aligned asked inOrder, inOrder, ← couter]
      apply aligned_same (finish_same board _ info)
      apply count_aligned taken record begun
      rw [couter, ← inOrder]
      exact inside
  | failed pdata len info src count left same attempt present same' =>
      have outside : handled download.state input.event = none := by rw [same]; rfl
      have told := (answers (pdata, len) (by rw [same]; rfl)).1
      have taken := take_aligned told aligned
      have record := (take_file_length_untouched download.state pdata len).info.trans present
      rw [built_after_outside outside] at built
      rw [starts_after_outside outside (by rw [same]; rfl)] at starts
      rw [built, starts, same']
      apply aligned_same (kept_same (fail_kept _ info src left))
      exact spoiled_aligned left taken record (attempt_image_length attempt).le

end Steps

section Runs

theorem aligned_initial (board : Board) (file : List UInt8) (flash : Flash) :
    Aligned board file (Download.initial flash) := by
  refine reset_aligned rfl rfl rfl ?_ ?_ ?_
  · intro info present
    cases present
  · intro pair member
    cases member
  · intro start stop member
    cases member

/-- The downloads of the exchange are aligned. The range that is open is that of the next sector,
and a download that has stored nothing is at its start. -/
structure Attuned (board : Board) (file : List UInt8) (exchange : Exchange) : Prop where
  aligned : Aligned board file exchange.download
  asked : ∀ start, exchange.asked = some start → start = exchange.download.starts.length * sectorSize
  fresh : exchange.stored = false → exchange.download.starts = []

section Exchanges

variable {board : Board} {file : List UInt8} {exchange next : Exchange} {input : Input}

/-- `couter` counts the ranges that are stored. -/
theorem aligned_couter {download : Download} (aligned : Aligned board file download) :
    download.state.upgradeFile.couter = download.starts.length := by
  rw [aligned.once, List.length_map, List.length_range]

theorem in_order_of_turn (attuned : Attuned board file exchange) (turn : InTurn file exchange input) :
    InOrder file exchange.download input := by
  have couter := aligned_couter attuned.aligned
  constructor
  · intro stores
    obtain ⟨asked, inside⟩ := turn.1 stores
    rw [couter]
    exact ⟨attuned.asked _ asked, inside⟩
  · intro enters
    rw [attuned.aligned.index, couter, attuned.fresh (turn.2 enters)]
    rfl

theorem handled_not_stores {state : UpgradeState} {event : UpgradeEvent} {signal : UpgradeSignal}
    (takes : handled state event = some signal) : Stores state event = false := by
  cases event with
  | package pdata len flag result => cases takes
  | _ => rfl

theorem range_start_next (aligned : Aligned board file exchange.download) :
    rangeStart exchange.download.state = exchange.download.starts.length * sectorSize := by
  have few := aligned.few
  rw [← aligned_couter aligned]
  unfold regionSectors at few
  unfold rangeStart uint32 sectorSize
  omega

theorem asked_next (attuned : Attuned board file exchange) {start : Nat}
    (asked : askedAfter exchange input.event = some start) :
    start = (startsAfter exchange.download input).length * sectorSize := by
  unfold askedAfter at asked
  split at asked
  · rename_i requests
    have ends : Ends exchange.download.state input.event = false := by rw [Ends, requests]
    rw [starts_after_quiet (handled_not_stores requests) ends, ← range_start_next attuned.aligned]
    exact (Option.some.inj asked).symm
  · unfold startsAfter
    split at asked
    · cases asked
    · rename_i misses
      rw [if_neg misses]
      split at asked
      · cases asked
      · rename_i goesOn
        have range := attuned.asked start asked
        split
        · rename_i ends
          have fresh := attuned.fresh (Bool.eq_false_iff.2 fun stored => goesOn ⟨ends, stored⟩)
          rw [fresh] at range
          exact range
        · exact range

theorem fresh_next (attuned : Attuned board file exchange)
    (fresh : storedAfter exchange input.event = false) :
    startsAfter exchange.download input = [] := by
  unfold storedAfter at fresh
  unfold startsAfter
  split at fresh
  · cases fresh
  · rename_i misses
    rw [if_neg misses]
    split
    · rfl
    · rename_i stays
      apply attuned.fresh
      split at fresh
      · rename_i errorCode exits
        rw [Ends, exits] at stays
        rw [Bool.not_eq_true, Option.isSome_eq_false_iff] at stays
        rwa [stays, Bool.and_true] at fresh
      · exact fresh

theorem attuned_step (attuned : Attuned board file exchange)
    (answers : ServerAnswers file exchange.download input) (turn : InTurn file exchange input)
    (step : exchangeStep board exchange input next) : Attuned board file next := by
  obtain ⟨taken, asked, stored⟩ := step
  refine ⟨aligned_step attuned.aligned answers (in_order_of_turn attuned turn) taken, ?_, ?_⟩
  · intro start range
    rw [taken.2.2]
    exact asked_next attuned (asked.symm.trans range)
  · intro fresh
    rw [taken.2.2]
    exact fresh_next attuned (stored.symm.trans fresh)

end Exchanges

/-- Where the server answers what it has been asked for, every answer that is stored is the only
one to the last request, and downloads start one after the other, each sector holds its range,
stored once. -/
theorem placement_kept (board : Board) (file : List UInt8) (flash : Flash) (inputs : List Input)
    (answers : Meets (exchangeStep board)
      (fun exchange input => ServerAnswers file exchange.download input) (.initial flash) inputs)
    (turns : Meets (exchangeStep board) (InTurn file) (.initial flash) inputs) :
    Keeps (exchangeStep board) (fun exchange => Placed file exchange.download) (.initial flash)
      inputs := by
  apply keeps_mono fun exchange (attuned : Attuned board file exchange) =>
    aligned_placed attuned.aligned
  refine keeps_of_meets (Attuned board file)
    (fun exchange input next attuned both step => attuned_step attuned both.1 both.2 step)
    ?_ (meets_and answers turns)
  refine ⟨aligned_initial board file flash, ?_, fun _ => rfl⟩
  intro start asked
  cases asked

def downloadExec (board : Board) (download : Download) (input : Input) : Option Download :=
  (runExec board download.state input.event).map fun next =>
    ⟨next, builtAfter download input.event, startsAfter download input⟩

theorem download_exec_sound (board : Board) (download : Download) (input : Input)
    (next : Download) (computed : downloadExec board download input = some next) :
    downloadStep board download input next := by
  obtain ⟨state, taken, rfl⟩ := Option.map_eq_some_iff.1 computed
  exact ⟨run_exec_sound board download.state input.event state taken, rfl, rfl⟩

theorem download_step_unique (board : Board) (download : Download) (input : Input)
    (left right : Download) (first : downloadStep board download input left)
    (second : downloadStep board download input right) : left = right := by
  obtain ⟨leftState, leftBuilt, leftStarts⟩ := left
  obtain ⟨rightState, rightBuilt, rightStarts⟩ := right
  obtain ⟨taken, built, starts⟩ := first
  obtain ⟨taken', built', starts'⟩ := second
  cases upgrade_step_unique _ _ _ _ _ taken taken'
  cases built.trans built'.symm
  cases starts.trans starts'.symm
  rfl

def alone (event : UpgradeEvent) : Input where
  event := event
  range := (0, 0)

theorem alone_answers (file : List UInt8) {event : UpgradeEvent} (other : wholePackage event = none)
    (download : Download) : ServerAnswers file download (alone event) := by
  intro package member
  cases other.symm.trans member

def twoSectorFile : List UInt8 :=
  List.replicate 8192 0x41

def firstSectorHead : List UInt8 :=
  asciiBytes
    "HTTP/1.1 206 Partial Content\r\nContent-Length: 4096\r\nContent-Range: bytes 0-4095/8192\r\n\r\n"

def firstSectorPackage : List UInt8 :=
  firstSectorHead ++ List.replicate 4096 0x41

/-- The answer with the first sector of the file. -/
def firstSectorAnswer : Input where
  event := .package firstSectorPackage 4184 true .ok
  range := (0, 4095)

def firstRequest : List Input :=
  [alone (.request anyUpgrade true), alone .enterTimer, alone (.handle allReturns),
    alone .connected, alone (.handle allReturns)]

/-- A second request comes after the first answer, and starts the download anew. -/
def startedTwice : List Input :=
  firstRequest ++ firstSectorAnswer ::
    [alone (.request anyUpgrade true), alone .enterTimer, alone (.handle allReturns),
      alone (.handle allReturns), alone .connected, alone (.handle allReturns)]

theorem started_twice_reached :
    ((execRun (downloadExec firstBoard) (.initial fun _ => 0xFF) startedTwice).any
      fun final => decide ((1, 0) ∈ final.built)) = true := by
  decide +kernel

theorem first_request_reached :
    ((execRun (downloadExec firstBoard) (.initial fun _ => 0xFF) firstRequest).any
      fun final => decide (.request 0 4095 ∈ final.state.log)) = true := by
  decide +kernel

theorem first_sector_range :
    rangeBytes twoSectorFile firstSectorAnswer.range = List.replicate 4096 0x41 := by
  rw [rangeBytes, twoSectorFile]
  exact (List.take_replicate ..)

theorem first_sector_answers {download : Download}
    (asked : .request 0 4095 ∈ download.state.log) :
    ServerAnswers twoSectorFile download firstSectorAnswer := by
  have parsed : packageData firstSectorPackage 4184 = some (4096, firstSectorHead.length) := by
    decide +kernel
  have told : getUserBinLength firstSectorPackage 4184 = 8192 := by decide +kernel
  intro package member
  cases member
  refine ⟨?_, fun found data => ?_⟩
  · rw [told, twoSectorFile, List.length_replicate]
    rfl
  · cases parsed.symm.trans data
    rw [first_sector_range]
    refine ⟨asked, List.length_replicate.symm, ?_⟩
    rw [packageBytes, firstSectorPackage, List.drop_left]
    exact List.take_of_length_le List.length_replicate.le

theorem started_twice_answered :
    Meets (downloadStep firstBoard) (ServerAnswers twoSectorFile) (.initial fun _ => 0xFF)
      startedTwice := by
  apply meets_append
  · apply meets_of_all
    intro input member download
    simp only [firstRequest, List.mem_cons, List.not_mem_nil, or_false] at member
    rcases member with rfl | rfl | rfl | rfl | rfl <;> exact alone_answers _ rfl download
  · intro middle run
    obtain ⟨final, run', asked⟩ :=
      exists_run_of_exec (download_exec_sound firstBoard) first_request_reached
    cases run_unique (download_step_unique firstBoard) run run'
    refine ⟨first_sector_answers (of_decide_eq_true asked), fun next _ => meets_of_all ?_⟩
    intro input member download
    simp only [List.mem_cons, List.not_mem_nil, or_false] at member
    rcases member with rfl | rfl | rfl | rfl | rfl | rfl <;> exact alone_answers _ rfl download

/-- The download that starts anew asks for the first range with the index at one. -/
theorem placement_lost :
    Meets (downloadStep firstBoard) (ServerAnswers twoSectorFile) (.initial fun _ => 0xFF)
        startedTwice ∧
      ¬ Keeps (downloadStep firstBoard) (Placed twoSectorFile) (.initial fun _ => 0xFF)
        startedTwice := by
  refine ⟨started_twice_answered, fun kept => ?_⟩
  obtain ⟨final, run, parted⟩ :=
    exists_run_of_exec (download_exec_sound firstBoard) started_twice_reached
  exact absurd ((keeps_final kept run).index _ (of_decide_eq_true parted)) (by decide)

/-- The one answer to a download of two bytes. -/
def shortAnswer : Input where
  event :=
    .package (asciiBytes
      "HTTP/1.1 206 Partial Content\r\nContent-Length: 2\r\nContent-Range: bytes 0-1/2\r\n\r\nhi")
      84 true .ok
  range := (0, 4095)

def shortDownload : List Input :=
  firstRequest ++ [shortAnswer, alone (.handle allReturns)]

def exchangeExec (board : Board) (exchange : Exchange) (input : Input) : Option Exchange :=
  (downloadExec board exchange.download input).map fun next =>
    ⟨next, askedAfter exchange input.event, storedAfter exchange input.event⟩

theorem exchange_exec_sound (board : Board) (exchange : Exchange) (input : Input) (next : Exchange)
    (computed : exchangeExec board exchange input = some next) :
    exchangeStep board exchange input next := by
  obtain ⟨download, taken, rfl⟩ := Option.map_eq_some_iff.1 computed
  exact ⟨download_exec_sound board exchange.download input download taken, rfl, rfl⟩

theorem exchange_step_unique (board : Board) (exchange : Exchange) (input : Input)
    (left right : Exchange) (first : exchangeStep board exchange input left)
    (second : exchangeStep board exchange input right) : left = right := by
  obtain ⟨leftDownload, leftAsked, leftStored⟩ := left
  obtain ⟨rightDownload, rightAsked, rightStored⟩ := right
  obtain ⟨taken, asked, stored⟩ := first
  obtain ⟨taken', asked', stored'⟩ := second
  cases download_step_unique _ _ _ _ _ taken taken'
  cases asked.trans asked'.symm
  cases stored.trans stored'.symm
  rfl

theorem placement_kept_short :
    Keeps (exchangeStep firstBoard) (fun exchange => Placed (asciiBytes "hi") exchange.download)
      (.initial fun _ => 0xFF) shortDownload :=
  placement_kept firstBoard (asciiBytes "hi") (fun _ => 0xFF) shortDownload
    (meets_of_exec (exchange_step_unique firstBoard) (exchange_exec_sound firstBoard)
      (by decide +kernel))
    (meets_of_exec (exchange_step_unique firstBoard) (exchange_exec_sound firstBoard)
      (by decide +kernel))

end Runs

end IotgoFirmware.Upgrade.UpgradePlacement
