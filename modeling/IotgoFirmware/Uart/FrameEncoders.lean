import IotgoFirmware.Uart.Crc32
import IotgoFirmware.Uart.FrameDecode

/-!
# The frames that the device sends

`cmdSendDataToMcu` and `cmdSendRetToMcu` against what a frame is: the preamble, the length in
one of three forms, the checksum where it is enabled, and a payload of as many bytes as were
declared. The second one puts its payload together in memory that it allocates.
-/

namespace IotgoFirmware.Uart.FrameEncoders

open IotgoFirmware.Library.CIntegers
open IotgoFirmware.Library.CStrings
open IotgoFirmware.Uart.Crc32
open IotgoFirmware.Uart.FrameDecode
open IotgoFirmware.Uart.U2artSchedule

set_option autoImplicit false

section Ret

/-- A block that string functions fill: the string in it, and whether every byte that they
wrote, the terminators included, lies in the block. -/
structure StringBlock where
  size : Nat
  text : List UInt8
  inside : Bool

def osStrcpy (size : Nat) (source : List UInt8) : StringBlock where
  size := size
  text := cString source
  inside := decide (strlen source < size)

def osStrcat (block : StringBlock) (source : List UInt8) : StringBlock where
  size := block.size
  text := block.text ++ cString source
  inside := block.inside && decide (block.text.length + strlen source < block.size)

/-- The bytes that went to the line, whether all writes were inside the allocated memory, and
the result. -/
structure Sent where
  emitted : List UInt8
  inside : Bool
  result : Bool

def frameBytes (crcEnable : Bool) (data : List UInt8) (dataLen : Nat) : List UInt8 :=
  0xAA :: 0x55 :: (declaredLength crcEnable dataLen ++ checksumBytes crcEnable data dataLen ++
    uart0TxBuffer data dataLen)

/-- The preamble is out before the memory is asked for. -/
def cmdSendRetToMcu (crcEnable malloc : Bool) (data : Option (List UInt8)) (length : Nat) :
    Sent :=
  match data with
  | none => { emitted := [], inside := true, result := false }
  | some data =>
      if length = 0 then { emitted := [], inside := true, result := false }
      else if malloc = false then { emitted := [0xAA, 0x55], inside := true, result := false }
      else
        let dataLen := uint32 (length + 8)
        let dataTemp := osStrcat (osStrcat (osStrcpy dataLen (asciiBytes "[\"ret\",")) data)
          (asciiBytes "]")
        { emitted := frameBytes crcEnable (dataTemp.text ++ [0]) dataLen
          inside := dataTemp.inside
          result := true }

theorem send_data_frame_bytes (crcEnable : Bool) (data : List UInt8) {length : Nat}
    (positive : length ≠ 0) :
    cmdSendDataToMcu crcEnable (some data) length = frameBytes crcEnable data length := by
  rw [cmdSendDataToMcu, if_neg positive]
  rfl

end Ret

section Frames

def bigEndian (bytes : List UInt8) : Nat :=
  bytes.foldl (fun value byte => 256 * value + byte.toNat) 0

/-- The length that the low bits of the length byte and the bytes behind it declare. -/
def Declares (code : Nat) (extended : List UInt8) (length : Nat) : Prop :=
  (code = length ∧ length ≤ 125 ∧ extended = []) ∨
    (code = 126 ∧ extended.length = 2 ∧ bigEndian extended = length) ∨
    (code = 127 ∧ extended.length = 4 ∧ bigEndian extended = length)

/-- The checksum of a payload, where there is one. -/
def Checks (crcEnable : Bool) (crc payload : List UInt8) : Prop :=
  if crcEnable then crc.length = 4 ∧ bigEndian crc = (bitwiseCrc32 payload).toNat else crc = []

def IsFrame (crcEnable : Bool) (payload emitted : List UInt8) : Prop :=
  ∃ (code : UInt8) (extended crc : List UInt8),
    emitted = 0xAA :: 0x55 :: code :: (extended ++ crc ++ payload) ∧
      (0x80 ≤ code ↔ crcEnable = true) ∧ Declares (code.toNat % 128) extended payload.length ∧
      Checks crcEnable crc payload

/-- What `cmdSendRetToMcu` has to send for a text. -/
def retPayload (data : List UInt8) : List UInt8 :=
  asciiBytes "[\"ret\"," ++ data ++ asciiBytes "]"

theorem big_endian_two {length : Nat} (small : length ≤ 65535) :
    bigEndian (lengthBytes2 length) = length := by
  simp only [bigEndian, lengthBytes2, List.foldl_cons, List.foldl_nil, UInt8.toNat_ofNat']
  omega

theorem big_endian_four {word : Nat} (small : word < 4294967296) :
    bigEndian (lengthBytes4 word) = word := by
  simp only [bigEndian, lengthBytes4, List.foldl_cons, List.foldl_nil, UInt8.toNat_ofNat']
  omega

theorem length_byte (crcEnable : Bool) {length : Nat} (short : length ≤ 125) :
    (UInt8.ofNat (if crcEnable then length ||| 0x80 else length)).toNat =
      length + if crcEnable then 128 else 0 := by
  rw [UInt8.toNat_ofNat']
  cases crcEnable with
  | false =>
      simp only [Bool.false_eq_true, if_false]
      omega
  | true =>
      have flagged : length ||| 0x80 = 0x80 + length := by
        rw [Nat.or_comm]
        exact (Nat.two_pow_add_eq_or_of_lt (i := 7) (by omega) 1).symm
      simp only [if_true, flagged]
      omega

theorem declared_length_parts (crcEnable : Bool) {length : Nat} (small : length ≤ 65535) :
    ∃ (code : UInt8) (extended : List UInt8),
      declaredLength crcEnable length = code :: extended ∧
        (0x80 ≤ code ↔ crcEnable = true) ∧ Declares (code.toNat % 128) extended length := by
  unfold declaredLength
  split
  · rename_i short
    have value := length_byte crcEnable short
    refine ⟨_, [], rfl, ?_, .inl ⟨?_, short, rfl⟩⟩
    · rw [UInt8.le_iff_toNat_le, value]
      change 128 ≤ _ ↔ _
      cases crcEnable with
      | false => simp; omega
      | true => simp
    · rw [value]
      cases crcEnable with
      | false => simp; omega
      | true => simp; omega
  · refine ⟨_, _, rfl, ?_, .inr (.inl ⟨?_, rfl, big_endian_two small⟩)⟩
    · cases crcEnable <;> decide
    · cases crcEnable <;> rfl

variable {crcEnable : Bool} {payload memory : List UInt8} {dataLen : Nat}

theorem checksum_bytes_check (front : memory.take (sint32 dataLen).toNat = payload) :
    Checks crcEnable (checksumBytes crcEnable memory dataLen) payload := by
  unfold Checks checksumBytes
  cases crcEnable with
  | false => rfl
  | true =>
      have value := big_endian_four (get_crc32_lt payload)
      rw [if_pos rfl, if_pos rfl, front]
      refine ⟨rfl, value.trans ?_⟩
      rw [getCrc32, bitwiseCrc32, crc_bytes_steps]

theorem frame_of_short (length : payload.length = dataLen) (front : memory.take dataLen = payload)
    (short : dataLen ≤ 65535) : IsFrame crcEnable payload (frameBytes crcEnable memory dataLen) := by
  obtain ⟨code, extended, declared, flag, declares⟩ := declared_length_parts crcEnable short
  have checked : memory.take (sint32 dataLen).toNat = payload := by
    have same : (sint32 dataLen).toNat = dataLen := by
      unfold sint32
      omega
    rw [same, front]
  have sent : uart0TxBuffer memory dataLen = payload := by
    rw [uart0TxBuffer, Nat.mod_eq_of_lt (by omega), front]
  refine ⟨code, extended, checksumBytes crcEnable memory dataLen, ?_, flag, length ▸ declares,
    checksum_bytes_check checked⟩
  rw [frameBytes, declared, sent]
  simp

theorem not_frame_of_long (long : 65536 ≤ payload.length)
    (same : dataLen % 65536 = payload.length % 65536) :
    ¬ IsFrame crcEnable payload (frameBytes crcEnable memory dataLen) := by
  rintro ⟨code, extended, crc, emitted, -, -, checks⟩
  have sent : (uart0TxBuffer memory dataLen).length ≤ dataLen % 65536 :=
    List.length_take_le _ _
  have declared : (declaredLength crcEnable dataLen).length ≤ 5 := by
    unfold declaredLength
    split
    · exact Nat.le_add_left 1 4
    · split
      · exact Nat.le_add_left 3 2
      · exact Nat.le_refl 5
  have alike : (checksumBytes crcEnable memory dataLen).length = crc.length := by
    unfold Checks at checks
    unfold checksumBytes
    cases crcEnable with
    | false => rw [if_neg Bool.false_ne_true, show crc = [] from checks]
    | true => exact ((if_pos rfl).mp checks).1.symm
  have lengths := congrArg List.length emitted
  simp only [frameBytes, List.length_cons, List.length_append] at lengths
  omega

end Frames

section Encoders

variable (crcEnable malloc : Bool) {data : List UInt8} (behind : List UInt8)

def sendRet (data : List UInt8) : Sent :=
  cmdSendRetToMcu crcEnable malloc (some (data ++ 0 :: behind)) data.length

/-- Nothing is written outside the allocated memory, and the frame goes out. -/
def SendsRet (data : List UInt8) : Prop :=
  (sendRet crcEnable malloc behind data).inside = true ∧
    IsFrame crcEnable (retPayload data) (sendRet crcEnable malloc behind data).emitted

theorem ret_payload_length (data : List UInt8) : (retPayload data).length = data.length + 8 := by
  rw [retPayload, List.length_append, List.length_append]
  change 7 + data.length + 1 = _
  omega

variable (nonempty : data ≠ []) (nulFree : (0 : UInt8) ∉ data)
include nonempty

theorem text_length_ne_zero : data.length ≠ 0 :=
  fun none => nonempty (List.length_eq_zero_iff.1 none)

theorem send_data_frame_iff :
    IsFrame crcEnable data
        (cmdSendDataToMcu crcEnable (some (data ++ 0 :: behind)) data.length) ↔
      data.length ≤ 65535 := by
  rw [send_data_frame_bytes crcEnable _ (text_length_ne_zero nonempty)]
  constructor
  · intro framed
    by_contra long
    exact not_frame_of_long (by omega) rfl framed
  · intro short
    exact frame_of_short rfl List.take_left short

include nulFree

theorem send_ret_allocated :
    sendRet crcEnable true behind data =
      { emitted := frameBytes crcEnable (retPayload data ++ [0]) (uint32 (data.length + 8))
        inside := false
        result := true } := by
  have copied : cString (data ++ 0 :: behind) = data := c_string_terminated behind nulFree
  have size : uint32 (data.length + 8) ≤ data.length + 8 := by
    unfold uint32
    omega
  have stray : ¬ 7 + data.length + 1 < uint32 (data.length + 8) := by omega
  have opening : cString (asciiBytes "[\"ret\",") = asciiBytes "[\"ret\"," := by decide
  have closing : cString (asciiBytes "]") = asciiBytes "]" := by decide
  have closed : ¬ (asciiBytes "[\"ret\"," ++ data).length + strlen (asciiBytes "]") <
      uint32 (data.length + 8) := by
    rw [List.length_append]
    exact stray
  rw [sendRet, cmdSendRetToMcu, if_neg (text_length_ne_zero nonempty), if_neg (by decide)]
  simp only [osStrcpy, osStrcat, opening, closing, copied, closed, decide_false, Bool.and_false,
    retPayload]

theorem send_ret_inside_iff :
    (sendRet crcEnable malloc behind data).inside = true ↔ malloc = false := by
  cases malloc with
  | false =>
      rw [sendRet, cmdSendRetToMcu, if_neg (text_length_ne_zero nonempty), if_pos rfl]
      simp
  | true => simp [send_ret_allocated crcEnable behind nonempty nulFree]

theorem send_ret_frame_iff :
    IsFrame crcEnable (retPayload data) (sendRet crcEnable malloc behind data).emitted ↔
      malloc = true ∧ data.length + 8 ≤ 65535 := by
  cases malloc with
  | false =>
      rw [sendRet, cmdSendRetToMcu, if_neg (text_length_ne_zero nonempty), if_pos rfl]
      refine iff_of_false ?_ (by simp)
      rintro ⟨code, extended, crc, emitted, -⟩
      cases emitted
  | true =>
      rw [send_ret_allocated crcEnable behind nonempty nulFree]
      have length := ret_payload_length data
      constructor
      · intro framed
        refine ⟨rfl, ?_⟩
        by_contra long
        refine not_frame_of_long (by omega) ?_ framed
        unfold uint32
        omega
      · rintro ⟨-, short⟩
        have size : uint32 (data.length + 8) = data.length + 8 := by
          unfold uint32
          omega
        rw [size]
        exact frame_of_short length (length ▸ List.take_left) short

/-- `cmdSendDataToMcu` sends the frame of its data up to 65535 bytes. `cmdSendRetToMcu` sends
its frame up to 65527 bytes, if there is memory, but then it has written behind the block. -/
theorem encoders_send_iff :
    (IsFrame crcEnable data
        (cmdSendDataToMcu crcEnable (some (data ++ 0 :: behind)) data.length) ↔
      data.length ≤ 65535) ∧
      (IsFrame crcEnable (retPayload data) (sendRet crcEnable malloc behind data).emitted ↔
        malloc = true ∧ data.length + 8 ≤ 65535) ∧
      ((sendRet crcEnable malloc behind data).inside = true ↔ malloc = false) ∧
      ¬ SendsRet crcEnable malloc behind data := by
  have framed := send_ret_frame_iff crcEnable malloc behind nonempty nulFree
  have inside := send_ret_inside_iff crcEnable malloc behind nonempty nulFree
  refine ⟨send_data_frame_iff crcEnable behind nonempty, framed, inside, ?_⟩
  rintro ⟨inBlock, frame⟩
  have allocated := (framed.1 frame).1
  rw [inside.1 inBlock] at allocated
  cases allocated

end Encoders

section Examples

/-- The data `0`. -/
theorem encoders_send_zero :
    (IsFrame true [48] (cmdSendDataToMcu true (some ([48] ++ 0 :: [])) 1) ↔ 1 ≤ 65535) ∧
      (IsFrame true (retPayload [48]) (sendRet true true [] [48]).emitted ↔
        true = true ∧ 1 + 8 ≤ 65535) ∧
      ((sendRet true true [] [48]).inside = true ↔ true = false) ∧
      ¬ SendsRet true true [] [48] :=
  encoders_send_iff true true [] (by decide) (by decide)

/-- Nine bytes are allocated for a text that takes ten with its terminator. -/
theorem ret_behind_block : ¬ SendsRet false true [] [48] := by
  intro sends
  exact absurd sends.1 (by decide)

end Examples

end IotgoFirmware.Uart.FrameEncoders
