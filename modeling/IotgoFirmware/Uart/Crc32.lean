import IotgoFirmware.Library.ReflectedCrc
import IotgoFirmware.Uart.U2artSchedule

/-!
# The checksum of a frame

`getCrc32` takes four bits of the message at a time from a table of sixteen words. It is the
check that takes the message bit by bit.
-/

namespace IotgoFirmware.Uart.Crc32

open IotgoFirmware.Library.ReflectedCrc
open IotgoFirmware.Uart.U2artSchedule

set_option autoImplicit false

/-- `POLY`. -/
def crcPoly : BitVec 32 := 0xEDB88320

/-- A pass of the loop in `getHalfBytePoly`. -/
def halfBytePass (sumPoly : BitVec 32) : BitVec 32 :=
  let hi := sumPoly &&& 0x01
  let shifted := sumPoly >>> 1
  if hi ≠ 0 then shifted ^^^ crcPoly else shifted

def getHalfBytePoly (data : UInt8) : BitVec 32 :=
  (List.range 4).foldl (fun sumPoly _ => halfBytePass sumPoly) (BitVec.ofNat 32 data.toNat)

/-- The check of a message, bit by bit: a byte goes into the low end of the register, and
eight steps take it. -/
def bitwiseCrc32 (data : List UInt8) : BitVec 32 :=
  ~~~ data.foldl (fun reg byte => crcSteps crcPoly 8 (reg ^^^ BitVec.ofNat 32 byte.toNat))
    0xFFFFFFFF

theorem half_byte_pass_step (sumPoly : BitVec 32) :
    halfBytePass sumPoly = crcStep crcPoly sumPoly := by
  have low : sumPoly &&& 0x01 = BitVec.setWidth 32 (BitVec.ofBool (sumPoly.getLsbD 0)) :=
    BitVec.and_one_eq_setWidth_ofBool_getLsbD
  unfold halfBytePass crcStep
  rw [low]
  cases sumPoly.getLsbD 0 with
  | false => rfl
  | true => rfl

theorem half_byte_poly_steps (data : UInt8) :
    getHalfBytePoly data = crcSteps crcPoly 4 (BitVec.ofNat 32 data.toNat) := by
  simp only [getHalfBytePoly, List.range, List.range.loop, List.foldl_cons, List.foldl_nil,
    half_byte_pass_step]
  rfl

theorem crc_table_entry (index : Fin 16) :
    crcTable[index.val]? = some (getHalfBytePoly (UInt8.ofNat index)) := by
  revert index
  decide

theorem crc_table_steps {index : Nat} (small : index < 16) :
    crcTable.getD index 0 = crcSteps crcPoly 4 (BitVec.ofNat 32 index) := by
  have entry := crc_table_entry ⟨index, small⟩
  rw [half_byte_poly_steps, UInt8.toNat_ofNat'] at entry
  rw [List.getD_eq_getElem?_getD, entry, Nat.mod_eq_of_lt (show index < 2 ^ 8 by omega)]
  rfl

theorem crc_nibble_steps (reg : BitVec 32) {nibble : Nat} (small : nibble < 16) :
    crcNibble reg nibble = crcSteps crcPoly 4 (reg ^^^ BitVec.ofNat 32 nibble) := by
  have index : (reg.toNat &&& 0x0F) ^^^ nibble < 16 :=
    Nat.xor_lt_two_pow (n := 4) (Nat.and_lt_two_pow (n := 4) _ (by decide)) small
  have shifted : BitVec.ofNat 32 nibble >>> 4 = 0 := by
    apply BitVec.eq_of_toNat_eq
    rw [BitVec.toNat_ushiftRight, BitVec.toNat_ofNat, Nat.shiftRight_eq_div_pow]
    change nibble % 4294967296 / 16 = 0
    omega
  have low : lowBits 4 (reg ^^^ BitVec.ofNat 32 nibble) =
      BitVec.ofNat 32 ((reg.toNat &&& 0x0F) ^^^ nibble) := by
    have whole : nibble &&& 0x0F = nibble := Nat.and_two_pow_sub_one_of_lt_two_pow (n := 4) small
    apply BitVec.eq_of_toNat_eq
    rw [lowBits, BitVec.toNat_and, BitVec.toNat_xor, BitVec.toNat_ofNat, BitVec.toNat_ofNat,
      BitVec.toNat_ofNat, Nat.mod_eq_of_lt (show nibble < 2 ^ 32 by omega),
      Nat.mod_eq_of_lt (show _ ^^^ _ < 2 ^ 32 by omega)]
    change (reg.toNat ^^^ nibble) &&& 0x0F = _
    rw [Nat.and_xor_distrib_right, whole]
  have unshifted : (reg ^^^ BitVec.ofNat 32 nibble) >>> 4 = reg >>> 4 := by
    rw [BitVec.ushiftRight_xor_distrib, shifted]
    exact BitVec.xor_zero
  rw [crc_steps_table, unshifted, low, ← crc_table_steps index]
  rfl

theorem crc_byte_steps (reg : BitVec 32) (byte : UInt8) :
    crcByte reg byte = crcSteps crcPoly 8 (reg ^^^ BitVec.ofNat 32 byte.toNat) := by
  have bound := byte.toNat_lt
  have low : lowBits 4 (BitVec.ofNat 32 byte.toNat) = BitVec.ofNat 32 (byte.toNat &&& 0x0F) := by
    apply BitVec.eq_of_toNat_eq
    rw [lowBits, BitVec.toNat_and, BitVec.toNat_ofNat, BitVec.toNat_ofNat, BitVec.toNat_ofNat,
      Nat.mod_eq_of_lt (show byte.toNat < 2 ^ 32 by omega)]
    exact (Nat.mod_eq_of_lt (Nat.and_lt_two_pow _ (by decide))).symm
  have high : BitVec.ofNat 32 byte.toNat >>> 4 = BitVec.ofNat 32 (byte.toNat >>> 4) := by
    apply BitVec.eq_of_toNat_eq
    rw [BitVec.toNat_ushiftRight, BitVec.toNat_ofNat, BitVec.toNat_ofNat,
      Nat.shiftRight_eq_div_pow]
    omega
  have lowSmall : byte.toNat &&& 0x0F < 16 := Nat.and_lt_two_pow _ (show 0x0F < 2 ^ 4 by decide)
  have highSmall : byte.toNat >>> 4 < 16 := by
    rw [Nat.shiftRight_eq_div_pow]
    omega
  calc crcByte reg byte
      = crcSteps crcPoly 4 (crcSteps crcPoly 4 (reg ^^^ BitVec.ofNat 32 (byte.toNat &&& 0x0F)) ^^^
          BitVec.ofNat 32 (byte.toNat >>> 4)) := by
        rw [crcByte, crc_nibble_steps reg lowSmall, crc_nibble_steps _ highSmall]
    _ = crcSteps crcPoly 4 (crcSteps crcPoly 4 (reg ^^^ BitVec.ofNat 32 byte.toNat)) := by
        rw [crc_steps_parts crcPoly 4 reg (BitVec.ofNat 32 byte.toNat), low, high]
    _ = crcSteps crcPoly 8 (reg ^^^ BitVec.ofNat 32 byte.toNat) :=
        (crc_steps_add crcPoly 4 4 _).symm

theorem crc_bytes_steps (data : List UInt8) (reg : BitVec 32) :
    data.foldl crcByte reg =
      data.foldl (fun reg byte => crcSteps crcPoly 8 (reg ^^^ BitVec.ofNat 32 byte.toNat)) reg := by
  induction data generalizing reg with
  | nil => rfl
  | cons byte rest ih =>
      rw [List.foldl_cons, List.foldl_cons, crc_byte_steps]
      exact ih _

/-- The checksum of a text is the one of its bits, whatever the text, and each entry of the
table is the remainder of its index. -/
theorem get_crc32_bitwise :
    (∀ data : List UInt8, getCrc32 data = (bitwiseCrc32 data).toNat) ∧
      crcTable = (List.range 16).map fun index => getHalfBytePoly (UInt8.ofNat index) := by
  constructor
  · intro data
    rw [getCrc32, bitwiseCrc32, crc_bytes_steps]
  · decide

/-- The check value of the polynomial. -/
example : getCrc32 [49, 50, 51, 52, 53, 54, 55, 56, 57] = 0xCBF43926 := by decide

end IotgoFirmware.Uart.Crc32
