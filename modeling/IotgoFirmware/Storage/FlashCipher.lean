import IotgoFirmware.Library.ByteCodecs
import IotgoFirmware.Library.NorFlash

/-!
# The bytes that bind the flash to its chip

`iotgo_flash.c` hides a word in a sector of random bytes, made of the identifiers of the chip
and of its flash. A device that does not find it there does not start.
-/

namespace IotgoFirmware.Storage.FlashCipher

open IotgoFirmware.Library.ByteCodecs.ByteCodec
open IotgoFirmware.Library.NorFlash

set_option autoImplicit false

/-- `IOTGO_FLASH_CIPHER_SECTOR`. -/
def cipherSector : Nat := 0xF8

/-- What `system_get_chip_id` and `spi_flash_get_id` return. -/
structure ChipIds where
  esp8266Id : UInt32
  flashId : UInt32

def ChipIds.cipher (ids : ChipIds) : UInt32 := ids.esp8266Id ^^^ ids.flashId

/-- The sector that `iotgoFlashCipher` fills; `rand` gives the bytes in their order. -/
def cipherBytes (ids : ChipIds) (rand : Nat → UInt8) : List UInt8 :=
  (List.range sectorSize).map fun i =>
    if i = 7 then (word.encode ids.cipher).getD 3 0
    else if i = 170 then (word.encode ids.cipher).getD 2 0
    else if i = 1700 then (word.encode ids.cipher).getD 1 0
    else if i = 1709 then (word.encode ids.cipher).getD 0 0
    else rand i

/-- `userStoreIoTgoFlashCipher` of what `iotgoFlashCipher` has filled. -/
def cipherOps (ids : ChipIds) (rand : Nat → UInt8) : List FlashOp :=
  [.erase cipherSector, .write (cipherSector * sectorSize) (cipherBytes ids rand)]

/-- The four bytes do not overlap, so that they make a word. -/
def readCipher (flash : Flash) : UInt32 :=
  let psector := readAt flash (cipherSector * sectorSize) sectorSize
  word.decode [psector.getD 1709 0, psector.getD 1700 0, psector.getD 170 0, psector.getD 7 0]

/-- `memory` tells whether there is memory for the sector. -/
def iotgoFlashDecipher (memory : Bool) (ids : ChipIds) (flash : Flash) : Bool :=
  if memory then
    decide (ids.esp8266Id = readCipher flash ^^^ ids.flashId) &&
      decide (ids.flashId = readCipher flash ^^^ ids.esp8266Id)
  else false

section Reads

variable {flash other : Flash} {ids : ChipIds}

theorem cipher_length (ids : ChipIds) (rand : Nat → UInt8) :
    (cipherBytes ids rand).length = sectorSize := by
  rw [cipherBytes, List.length_map, List.length_range]

theorem xor_right_eq_iff {first second third : UInt32} :
    first = second ^^^ third ↔ second = first ^^^ third := by
  constructor
  · rintro rfl
    rw [UInt32.xor_assoc, UInt32.xor_self, UInt32.xor_zero]
  · rintro rfl
    rw [UInt32.xor_assoc, UInt32.xor_self, UInt32.xor_zero]

theorem decipher_iff :
    iotgoFlashDecipher true ids flash = true ↔ readCipher flash = ids.cipher := by
  rw [iotgoFlashDecipher, if_pos rfl, Bool.and_eq_true, decide_eq_true_eq, decide_eq_true_eq]
  rw [xor_right_eq_iff, @xor_right_eq_iff ids.flashId, UInt32.xor_comm ids.flashId, and_self]
  exact Iff.rfl

theorem read_cipher_congr
    (same : ∀ address, address / sectorSize = cipherSector → other address = flash address) :
    readCipher other = readCipher flash := by
  have sector : readAt other (cipherSector * sectorSize) sectorSize =
      readAt flash (cipherSector * sectorSize) sectorSize := by
    apply read_at_congr
    intro address above below
    apply same
    obtain ⟨offset, rfl⟩ := Nat.exists_eq_add_of_le above
    exact in_sector (Nat.lt_of_add_lt_add_left below)
  rw [readCipher, readCipher, sector]

theorem cipher_byte (rand : Nat → UInt8) {i : Nat} (inside : i < sectorSize) :
    (cipherBytes ids rand).getD i 0 =
      if i = 7 then (word.encode ids.cipher).getD 3 0
      else if i = 170 then (word.encode ids.cipher).getD 2 0
      else if i = 1700 then (word.encode ids.cipher).getD 1 0
      else if i = 1709 then (word.encode ids.cipher).getD 0 0
      else rand i := by
  have bound : i < (cipherBytes ids rand).length := inside.trans_eq (cipher_length ids rand).symm
  rw [List.getD_eq_getElem _ _ bound]
  simp only [cipherBytes, List.getElem_map, List.getElem_range]

theorem read_ciphered (ids : ChipIds) (rand : Nat → UInt8) (flash : Flash) :
    readCipher (runOps (cipherOps ids rand) flash) = ids.cipher := by
  have length := cipher_length ids rand
  have sector : readAt (runOps (cipherOps ids rand) flash) (cipherSector * sectorSize)
      sectorSize = cipherBytes ids rand := by
    have read := erase_write_read flash cipherSector length.le
    rw [length] at read
    exact read
  rw [readCipher, sector]
  rw [cipher_byte rand (by decide), cipher_byte rand (by decide), cipher_byte rand (by decide),
    cipher_byte rand (by decide)]
  exact decode_encode_all word ids.cipher

end Reads

end IotgoFirmware.Storage.FlashCipher
