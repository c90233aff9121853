import IotgoFirmware.Factory.MacTexts
import IotgoFirmware.Upgrade.Sha256
import IotgoFirmware.Upgrade.UpgradeVerify

/-!
# The check before a restart

A request to restart into the other image is answered with what `iotgoUpgradeVerifyNewBin`
finds: the record has to name the image that is not running and a later version, and the flash
has to hold what the record has the digest of. The digest is taken sector by sector, of those
that can be read, with the functions of a library that is not part of the firmware.
-/

namespace IotgoFirmware.Upgrade.NewBinCheck

open IotgoFirmware.Library.BlockStreams IotgoFirmware.Library.CStrings
open IotgoFirmware.Library.LoopRules IotgoFirmware.Library.NorFlash
open IotgoFirmware.Factory.MacTexts (hexText)
open IotgoFirmware.Upgrade.Sha256 IotgoFirmware.Upgrade.UpgradeRecord
open IotgoFirmware.Upgrade.UpgradeSession IotgoFirmware.Upgrade.UpgradeVerify

set_option autoImplicit false

inductive NewBinResult where
  | ok
  | badVersion
  | badName
  | badDigest
deriving DecidableEq

/-- The SHA-256 functions of `mbedtls`. -/
structure DigestCode (Context : Type) where
  starts : Context → Context
  update : Context → List UInt8 → Context
  finish : Context → List UInt8

/-- What they are relied on for: parts are digested as the whole, whatever the context held. -/
def DigestsParts {Context : Type} (code : DigestCode Context)
    (digest : List UInt8 → List UInt8) : Prop :=
  ∀ memory, ∀ chunks : List (List UInt8), (∀ chunk ∈ chunks, chunk.length < 2 ^ 32) →
    8 * chunks.flatten.length < 2 ^ 64 →
    code.finish (chunks.foldl code.update (code.starts memory)) = digest chunks.flatten

section Code

variable {Context : Type} (code : DigestCode Context)

/-- `spi_flash_read` succeeds at the addresses of which `readable` says so. -/
structure FlashChip where
  flash : Flash
  readable : Nat → Bool

def spiFlashRead (chip : FlashChip) (address size : Nat) : Option (List UInt8) :=
  if chip.readable address then some (readAt chip.flash address size) else none

/-- The index of sixteen bits, the context and the buffer for a sector. -/
structure DigestLoop (Context : Type) where
  i : Nat
  ctx : Context
  buffer : List UInt8

def digestBody (chip : FlashChip) (startAddr size : Nat) (loop : DigestLoop Context) :
    LoopStep (DigestLoop Context) :=
  if loop.i < size / sectorSize then
    match spiFlashRead chip (startAddr + loop.i * sectorSize) sectorSize with
    | some buffer => .again ⟨(loop.i + 1) % 65536, code.update loop.ctx buffer, buffer⟩
    | none => .again { loop with i := (loop.i + 1) % 65536 }
  else .exit loop

def sha256Hex (digest : List UInt8) : List UInt8 :=
  digest.flatMap hexText

/-- Behind the loop: the rest is digested whether it could be read or not. -/
def digestRest (chip : FlashChip) (startAddr size : Nat) (loop : DigestLoop Context) :
    List UInt8 :=
  let buffer :=
    match spiFlashRead chip (startAddr + loop.i * sectorSize) (size % sectorSize) with
    | some bytes => bytes ++ loop.buffer.drop bytes.length
    | none => loop.buffer
  sha256Hex (code.finish (code.update loop.ctx (buffer.take (size % sectorSize))))

/-- No result where the loop does not end; the context holds anything at first, and so does the
buffer, where there is memory for one. -/
def iotgoUpgradeVerifyFlashData (chip : FlashChip) (memory : Context)
    (buffer : Option (List UInt8)) (startAddr size : Nat) (digestHex : List UInt8) : Option Bool :=
  match buffer with
  | none => some false
  | some buffer =>
      match iterate (digestBody code chip startAddr size) 65536 ⟨0, code.starts memory, buffer⟩ with
      | .again _ => none
      | .exit loop => some (digestRest code chip startAddr size loop = cString digestHex)

/-- `os_strcmp(version, IOTGO_FM_VERSION) > 0` -/
def verifyFirmwareVersion (fmVersion version : List UInt8) : Bool :=
  decide (cString fmVersion < cString version)

def otherName : UserBin → List UInt8
  | .bin1 => asciiBytes "user2.bin"
  | .bin2 => asciiBytes "user1.bin"

/-- `os_strncmp` with the length of the name finds no difference. -/
def nameMatches (currentBin : UserBin) (name : List UInt8) : Bool :=
  (otherName currentBin).isPrefixOf (cString name)

def iotgoUpgradeVerifyNewBin (chip : FlashChip) (memory : Context)
    (buffer : Option (List UInt8)) (fmVersion : List UInt8) (currentBin : UserBin)
    (info : NewBinInfo) : Option NewBinResult :=
  if ¬ nameMatches currentBin info.name then some .badName
  else if ¬ verifyFirmwareVersion fmVersion info.version then some .badVersion
  else
    (iotgoUpgradeVerifyFlashData code chip memory buffer (binStartSector currentBin * sectorSize)
      info.length info.sha256).map fun same => if same then .ok else .badDigest

end Code

section Digests

variable {Context : Type} {code : DigestCode Context} {digest : List UInt8 → List UInt8}
  {chip : FlashChip} {startAddr size : Nat} {memory : Context} {buffer digestHex : List UInt8}

/-- The context has taken the bytes, in parts. -/
def Taken (code : DigestCode Context) (memory ctx : Context) (bytes : List UInt8) : Prop :=
  ∃ chunks : List (List UInt8), (∀ chunk ∈ chunks, chunk.length < 2 ^ 32) ∧
    ctx = chunks.foldl code.update (code.starts memory) ∧ bytes = chunks.flatten

theorem taken_update {ctx : Context} {bytes : List UInt8} (taken : Taken code memory ctx bytes)
    {chunk : List UInt8} (small : chunk.length < 2 ^ 32) :
    Taken code memory (code.update ctx chunk) (bytes ++ chunk) := by
  obtain ⟨chunks, each, rfl, rfl⟩ := taken
  refine ⟨chunks ++ [chunk], ?_, ?_, ?_⟩
  · intro part member
    rcases List.mem_append.1 member with before | last
    · exact each part before
    · rwa [List.mem_singleton.1 last]
  · rw [List.foldl_append]
    rfl
  · rw [List.flatten_append, List.flatten_singleton]

theorem taken_finish (parts : DigestsParts code digest) {ctx : Context} {bytes : List UInt8}
    (taken : Taken code memory ctx bytes) (short : 8 * bytes.length < 2 ^ 64) :
    code.finish ctx = digest bytes := by
  obtain ⟨chunks, each, rfl, rfl⟩ := taken
  exact parts memory chunks each short

/-- The context has taken the bytes that a loop without digest collects. -/
structure Collects (code : DigestCode Context) (memory : Context) (loop : DigestLoop Context)
    (head : Nat × List UInt8) : Prop where
  index : loop.i = head.1
  taken : Taken code memory loop.ctx head.2

/-- The loop is left with what the other one has, but for the bytes behind the last sector. -/
structure Leaves (code : DigestCode Context) (memory : Context) (flash : Flash)
    (startAddr size : Nat) (last : DigestLoop Context) (read : Nat × List UInt8) : Prop where
  rest : ∃ front, Taken code memory last.ctx front ∧
    read.2 = front ++ readAt flash (startAddr + last.i * sectorSize) (size % sectorSize)

theorem digest_passes (readable : ∀ address, chip.readable address = true)
    (loop : DigestLoop Context) (head : Nat × List UInt8)
    (collects : Collects code memory loop head) :
    (∃ next read, digestBody code chip startAddr size loop = .again next ∧
      verifyBody chip.flash startAddr size head = .again read ∧ Collects code memory next read) ∨
    ∃ last read, digestBody code chip startAddr size loop = .exit last ∧
      verifyBody chip.flash startAddr size head = .exit read ∧
      Leaves code memory chip.flash startAddr size last read := by
  obtain ⟨index, taken⟩ := collects
  unfold digestBody verifyBody
  rw [index]
  by_cases below : head.1 < size / sectorSize
  · have inside : (readAt chip.flash (startAddr + head.1 * sectorSize) sectorSize).length <
        2 ^ 32 := by
      rw [read_at_length]
      decide
    rw [if_pos below, if_pos below, spiFlashRead, if_pos (readable _)]
    generalize readAt chip.flash (startAddr + head.1 * sectorSize) sectorSize = bytes at inside ⊢
    exact .inl ⟨_, _, rfl, rfl, ⟨rfl, taken_update taken inside⟩⟩
  · rw [if_neg below, if_neg below]
    refine .inr ⟨loop, _, rfl, rfl, ⟨head.2, taken, ?_⟩⟩
    rw [index]

theorem digest_rest_eq (parts : DigestsParts code digest)
    (readable : ∀ address, chip.readable address = true) {last : DigestLoop Context}
    {read : Nat × List UInt8} (leaves : Leaves code memory chip.flash startAddr size last read)
    (whole : read.2 = readAt chip.flash startAddr size) (small : size < 2 ^ 32) :
    digestRest code chip startAddr size last =
      sha256Hex (digest (readAt chip.flash startAddr size)) := by
  obtain ⟨front, taken, same⟩ := leaves.rest
  have length : (readAt chip.flash (startAddr + last.i * sectorSize)
      (size % sectorSize)).length = size % sectorSize := read_at_length _ _
  have taking : ∀ behind : List UInt8, (readAt chip.flash (startAddr + last.i * sectorSize)
      (size % sectorSize) ++ behind).take (size % sectorSize) =
        readAt chip.flash (startAddr + last.i * sectorSize) (size % sectorSize) := by
    intro behind
    exact List.take_left' length
  have short : 8 * (front ++ readAt chip.flash (startAddr + last.i * sectorSize)
      (size % sectorSize)).length < 2 ^ 64 := by
    rw [← same, whole, read_at_length]
    omega
  have inside : (readAt chip.flash (startAddr + last.i * sectorSize)
      (size % sectorSize)).length < 2 ^ 32 := by
    rw [length]
    exact lt_of_le_of_lt (Nat.mod_le _ _) small
  unfold digestRest
  rw [spiFlashRead, if_pos (readable _)]
  dsimp only
  rw [taking, taken_finish parts (taken_update taken inside) short, ← same, whole]

theorem verify_streamed (parts : DigestsParts code digest)
    (readable : ∀ address, chip.readable address = true) (small : size < 2 ^ 32)
    (currentBin : UserBin) :
    iotgoUpgradeVerifyFlashData code chip memory (some buffer) startAddr size digestHex =
      verifyFlashData ⟨currentBin, fun bytes => sha256Hex (digest bytes)⟩ chip.flash startAddr
        size (cString digestHex) := by
  have begun : Collects code memory ⟨0, code.starts memory, buffer⟩ (0, []) :=
    ⟨rfl, [], List.forall_mem_nil _, rfl, rfl⟩
  unfold iotgoUpgradeVerifyFlashData verifyFlashData
  dsimp only
  rcases iterate_related _ _ (digest_passes readable) 65536 begun with
    ⟨next, read, here, there, -⟩ | ⟨last, read, here, there, leaves⟩
  · rw [here, there]
  · have whole : read.2 = readAt chip.flash startAddr size :=
      verify_exits_read (exits_of_iterate there)
    rw [here, there]
    dsimp only
    rw [digest_rest_eq parts readable leaves whole small, whole]

end Digests

section Restarts

variable {Context : Type} {code : DigestCode Context} {digest : List UInt8 → List UInt8}
  {chip : FlashChip} {memory : Context} {fmVersion : List UInt8} {buffer : Option (List UInt8)}
  {currentBin : UserBin} {info : NewBinInfo}

/-- What the record says of the flash. -/
structure Confirmed (digest : List UInt8 → List UInt8) (flash : Flash) (fmVersion : List UInt8)
    (currentBin : UserBin) (info : NewBinInfo) : Prop where
  name : ∃ behind, cString info.name = otherName currentBin ++ behind
  version : cString fmVersion < cString info.version
  digest : sha256Hex (digest (readAt flash (binStartSector currentBin * sectorSize) info.length)) =
    cString info.sha256

theorem name_matches_iff (name : List UInt8) :
    nameMatches currentBin name = true ↔
      ∃ behind, cString name = otherName currentBin ++ behind := by
  rw [nameMatches, List.isPrefixOf_iff_prefix]
  constructor
  · rintro ⟨behind, same⟩
    exact ⟨behind, same.symm⟩
  · rintro ⟨behind, same⟩
    exact ⟨behind, same.symm⟩

theorem flash_data_few (parts : DigestsParts code digest)
    (readable : ∀ address, chip.readable address = true) {startAddr size : Nat} (small : size < 2 ^ 32)
    (few : size / sectorSize < 65536) (bytes digestHex : List UInt8) :
    iotgoUpgradeVerifyFlashData code chip memory (some bytes) startAddr size digestHex =
      some (decide (sha256Hex (digest (readAt chip.flash startAddr size)) =
        cString digestHex)) := by
  obtain ⟨read, ends⟩ := @verify_completes chip.flash startAddr size few
  have whole := verify_exits_read (exits_of_iterate ends)
  rw [verify_streamed parts readable small .bin1]
  unfold verifyFlashData
  rw [ends]
  dsimp only
  rw [whole]

theorem flash_data_many (parts : DigestsParts code digest)
    (readable : ∀ address, chip.readable address = true) {startAddr size : Nat} (small : size < 2 ^ 32)
    (many : 65536 ≤ size / sectorSize) (bytes digestHex : List UInt8) :
    iotgoUpgradeVerifyFlashData code chip memory (some bytes) startAddr size digestHex = none := by
  rw [verify_streamed parts readable small .bin1]
  exact verify_none many

theorem new_bin_passed (name : nameMatches currentBin info.name = true)
    (version : cString fmVersion < cString info.version) :
    iotgoUpgradeVerifyNewBin code chip memory buffer fmVersion currentBin info =
      (iotgoUpgradeVerifyFlashData code chip memory buffer (binStartSector currentBin * sectorSize)
        info.length info.sha256).map fun same => if same then .ok else .badDigest := by
  have later : verifyFirmwareVersion fmVersion info.version = true := decide_eq_true version
  unfold iotgoUpgradeVerifyNewBin
  rw [if_neg (not_not.2 name), if_neg (not_not.2 later)]

theorem new_bin_refused (refused : ¬ (nameMatches currentBin info.name = true ∧
    cString fmVersion < cString info.version)) :
    ∃ result, iotgoUpgradeVerifyNewBin code chip memory buffer fmVersion currentBin info =
      some result ∧ result ≠ .ok := by
  unfold iotgoUpgradeVerifyNewBin
  by_cases name : nameMatches currentBin info.name = true
  · have older : ¬ verifyFirmwareVersion fmVersion info.version = true := by
      intro later
      exact refused ⟨name, of_decide_eq_true later⟩
    rw [if_neg (not_not.2 name), if_pos older]
    exact ⟨.badVersion, rfl, by decide⟩
  · rw [if_pos name]
    exact ⟨.badName, rfl, by decide⟩

theorem new_bin_ok (parts : DigestsParts code digest)
    (readable : ∀ address, chip.readable address = true) (small : info.length < 2 ^ 32) :
    iotgoUpgradeVerifyNewBin code chip memory buffer fmVersion currentBin info = some .ok ↔
      buffer.isSome = true ∧ info.length / sectorSize < 65536 ∧
        Confirmed digest chip.flash fmVersion currentBin info := by
  by_cases passes : nameMatches currentBin info.name = true ∧
      cString fmVersion < cString info.version
  swap
  · obtain ⟨result, refused, bad⟩ :=
      @new_bin_refused Context code chip memory fmVersion buffer currentBin info passes
    rw [refused, Option.some.injEq]
    constructor
    · exact fun ok => absurd ok bad
    · rintro ⟨-, -, confirmed⟩
      exact absurd ⟨(name_matches_iff _).2 confirmed.name, confirmed.version⟩ passes
  rw [new_bin_passed passes.1 passes.2]
  cases buffer with
  | none => simp [iotgoUpgradeVerifyFlashData]
  | some bytes =>
      by_cases few : info.length / sectorSize < 65536
      · rw [flash_data_few parts readable small few, Option.map_some, Option.some.injEq]
        constructor
        · intro ok
          have same : sha256Hex (digest (readAt chip.flash (binStartSector currentBin * sectorSize)
              info.length)) = cString info.sha256 := by
            by_contra other
            rw [decide_eq_false other] at ok
            cases ok
          exact ⟨rfl, few, (name_matches_iff _).1 passes.1, passes.2, same⟩
        · rintro ⟨-, -, confirmed⟩
          rw [decide_eq_true confirmed.digest]
          rfl
      · rw [flash_data_many parts readable small (Nat.le_of_not_lt few)]
        simp [few]

theorem new_bin_endless (parts : DigestsParts code digest)
    (readable : ∀ address, chip.readable address = true) (small : info.length < 2 ^ 32) :
    iotgoUpgradeVerifyNewBin code chip memory buffer fmVersion currentBin info = none ↔
      buffer.isSome = true ∧ 65536 ≤ info.length / sectorSize ∧
        nameMatches currentBin info.name = true ∧ cString fmVersion < cString info.version := by
  by_cases passes : nameMatches currentBin info.name = true ∧
      cString fmVersion < cString info.version
  swap
  · obtain ⟨result, refused, -⟩ :=
      @new_bin_refused Context code chip memory fmVersion buffer currentBin info passes
    rw [refused]
    simp [passes]
  rw [new_bin_passed passes.1 passes.2]
  cases buffer with
  | none => simp [iotgoUpgradeVerifyFlashData]
  | some bytes =>
      by_cases few : info.length / sectorSize < 65536
      · rw [flash_data_few parts readable small few, Option.map_some]
        have fewer : ¬ 65536 ≤ info.length / sectorSize := Nat.not_le.2 few
        simp [fewer]
      · have many := Nat.le_of_not_lt few
        rw [flash_data_many parts readable small many]
        simp [many, passes]

/-- The device restarts exactly into an image that is the other one, later, and has the
digest, where there is memory for a sector; and the check ends unless a record that passes the
first two tests names more sectors than its index counts. -/
theorem new_bin_ok_iff (parts : DigestsParts code digest)
    (readable : ∀ address, chip.readable address = true) (small : info.length < 2 ^ 32) :
    (iotgoUpgradeVerifyNewBin code chip memory buffer fmVersion currentBin info = some .ok ↔
      buffer.isSome = true ∧ info.length / sectorSize < 65536 ∧
        Confirmed digest chip.flash fmVersion currentBin info) ∧
    (iotgoUpgradeVerifyNewBin code chip memory buffer fmVersion currentBin info = none ↔
      buffer.isSome = true ∧ 65536 ≤ info.length / sectorSize ∧
        nameMatches currentBin info.name = true ∧ cString fmVersion < cString info.version) :=
  ⟨new_bin_ok parts readable small, new_bin_endless parts readable small⟩

/-- The functions of `sha256.c`, which a build without `mbedtls` takes. -/
def sha256Code : DigestCode Sha256Context where
  starts _ := sha256Starts (List.replicate 64 0)
  update := sha256Update
  finish := sha256Finish

theorem sha256_digests_parts : DigestsParts sha256Code Sha256.digest := fun _ _ small short =>
  finish_digest (updates_represent (starts_represents List.length_replicate) small) short

/-- A record of an image of two sectors and a rest. -/
def largeBin : NewBinInfo where
  name := asciiBytes "user2.bin"
  version := asciiBytes "1.7.0"
  length := 10000
  sha256 := List.replicate 64 0x30

theorem new_bin_ok_iff_large :
    (iotgoUpgradeVerifyNewBin sha256Code ⟨fun _ => 255, fun _ => true⟩
        (sha256Starts []) (some []) (asciiBytes "1.6.0") .bin1 largeBin = some .ok ↔
      (some ([] : List UInt8)).isSome = true ∧ largeBin.length / sectorSize < 65536 ∧
        Confirmed Sha256.digest (fun _ => 255) (asciiBytes "1.6.0") .bin1 largeBin) ∧
    (iotgoUpgradeVerifyNewBin sha256Code ⟨fun _ => 255, fun _ => true⟩
        (sha256Starts []) (some []) (asciiBytes "1.6.0") .bin1 largeBin = none ↔
      (some ([] : List UInt8)).isSome = true ∧ 65536 ≤ largeBin.length / sectorSize ∧
        nameMatches .bin1 largeBin.name = true ∧
        cString (asciiBytes "1.6.0") < cString largeBin.version) :=
  new_bin_ok_iff sha256_digests_parts (fun _ => rfl) (by decide)

/-- The tenth minor version is taken for an older one than the sixth. -/
example : verifyFirmwareVersion (asciiBytes "1.6.0") (asciiBytes "1.10.0") = false := by
  decide

end Restarts

end IotgoFirmware.Upgrade.NewBinCheck
