import Mathlib.Algebra.Group.Nat.Defs
import Mathlib.Data.List.Basic
import Mathlib.Tactic.TypeStar

/-!
# Frames of the WebSocket protocol

The base framing of RFC 6455 without extensions: a byte with the final bit and the opcode, a byte
with the mask bit and a length, two or eight further bytes of length in network order where
they are needed, a masking key, and the payload. A decoder takes one frame off the front of the
bytes; what an encoder has made of a frame, it takes off again.
-/

namespace IotgoFirmware.Library.WebsocketFrames

set_option autoImplicit false

/-- The payload is that before masking. -/
structure Frame where
  fin : Bool
  opcode : Nat
  maskingKey : Option (List UInt8)
  payload : List UInt8
deriving DecidableEq

def textOpcode : Nat := 0x1
def pingOpcode : Nat := 0x9

section Numbers

/-- Network order. -/
def numberBytes : Nat → Nat → List UInt8
  | 0, _ => []
  | width + 1, number => numberBytes width (number / 256) ++ [UInt8.ofNat (number % 256)]

def bytesNumber (bytes : List UInt8) : Nat :=
  bytes.foldl (fun number byte => 256 * number + byte.toNat) 0

theorem number_bytes_length (width number : Nat) : (numberBytes width number).length = width := by
  induction width generalizing number with
  | zero => rfl
  | succ width ih => rw [numberBytes, List.length_append, ih, List.length_singleton]

theorem bytes_number_bytes {width number : Nat} (small : number < 256 ^ width) :
    bytesNumber (numberBytes width number) = number := by
  induction width generalizing number with
  | zero =>
      rw [Nat.pow_zero] at small
      rw [Nat.lt_one_iff.1 small]
      rfl
  | succ width ih =>
      have quotient : number / 256 < 256 ^ width := by
        rw [Nat.pow_succ] at small
        exact Nat.div_lt_of_lt_mul (Nat.mul_comm _ _ ▸ small)
      have front := ih quotient
      unfold bytesNumber at front ⊢
      rw [numberBytes, List.foldl_append, front, List.foldl_cons, List.foldl_nil,
        UInt8.toNat_ofNat']
      omega

end Numbers

section Masks

def masked (key payload : List UInt8) : List UInt8 :=
  payload.mapIdx fun index byte => byte ^^^ key.getD (index % 4) 0

theorem masked_masked (key payload : List UInt8) : masked key (masked key payload) = payload := by
  apply List.ext_getElem
  · rw [masked, masked, List.length_mapIdx, List.length_mapIdx]
  · intro index inside inside'
    simp only [masked, List.getElem_mapIdx]
    rw [UInt8.xor_assoc, UInt8.xor_self, UInt8.xor_zero]

theorem masked_length (key payload : List UInt8) : (masked key payload).length = payload.length :=
  List.length_mapIdx

theorem masked_zero (payload : List UInt8) : masked [0, 0, 0, 0] payload = payload := by
  apply List.ext_getElem
  · exact masked_length _ _
  · intro index inside inside'
    have zero : ([0, 0, 0, 0] : List UInt8).getD (index % 4) 0 = 0 := by
      rcases index % 4 with _ | _ | _ | _ | place <;> rfl
    simp only [masked, List.getElem_mapIdx]
    rw [zero, UInt8.xor_zero]

end Masks

section Codec

def lengthCode (length : Nat) : Nat :=
  if length ≤ 125 then length else if length ≤ 65535 then 126 else 127

/-- The bytes of length behind them. -/
def lengthBytes (length : Nat) : List UInt8 :=
  if length ≤ 125 then [] else if length ≤ 65535 then numberBytes 2 length
  else numberBytes 8 length

def encodeFrame (frame : Frame) : List UInt8 :=
  UInt8.ofNat ((if frame.fin then 128 else 0) + frame.opcode) ::
    UInt8.ofNat ((if frame.maskingKey.isSome then 128 else 0) + lengthCode frame.payload.length) ::
      (lengthBytes frame.payload.length ++ (frame.maskingKey.getD [] ++
        match frame.maskingKey with
        | some key => masked key frame.payload
        | none => frame.payload))

/-- A length is written with as few bytes as it needs. -/
def decodeLength (code : Nat) (bytes : List UInt8) : Option (Nat × List UInt8) :=
  if code ≤ 125 then some (code, bytes)
  else if code = 126 then
    if bytes.length < 2 ∨ bytesNumber (bytes.take 2) ≤ 125 then none
    else some (bytesNumber (bytes.take 2), bytes.drop 2)
  else if bytes.length < 8 ∨ bytesNumber (bytes.take 8) ≤ 65535 ∨
      2 ^ 63 ≤ bytesNumber (bytes.take 8) then none
  else some (bytesNumber (bytes.take 8), bytes.drop 8)

/-- The frame at the front, and what follows it. Reserved bits are not set, and a control frame is
whole and short. -/
def decodeFrame : List UInt8 → Option (Frame × List UInt8)
  | first :: second :: rest =>
      let fin := decide (128 ≤ first.toNat)
      let opcode := first.toNat % 16
      let isMasked := decide (128 ≤ second.toNat)
      if first.toNat / 16 % 8 ≠ 0 then none
      else
        (decodeLength (second.toNat % 128) rest).bind fun (length, rest) =>
          let keyLength := if isMasked then 4 else 0
          if rest.length < keyLength + length ∨ (8 ≤ opcode ∧ (fin = false ∨ 125 < length)) then none
          else
            let key := rest.take keyLength
            let payload := (rest.drop keyLength).take length
            some ({ fin, opcode,
                    maskingKey := if isMasked then some key else none
                    payload := if isMasked then masked key payload else payload },
              rest.drop (keyLength + length))
  | _ => none

/-- What a frame has to keep to. -/
structure Proper (frame : Frame) : Prop where
  opcode : frame.opcode < 16
  key : ∀ key ∈ frame.maskingKey, key.length = 4
  short : frame.payload.length < 2 ^ 63
  control : 8 ≤ frame.opcode → frame.fin = true ∧ frame.payload.length ≤ 125

theorem decode_length_bytes {length : Nat} (short : length < 2 ^ 63) (rest : List UInt8) :
    decodeLength (lengthCode length) (lengthBytes length ++ rest) = some (length, rest) := by
  unfold lengthCode lengthBytes decodeLength
  by_cases low : length ≤ 125
  · rw [if_pos low, if_pos low, if_pos low]
    rfl
  · rw [if_neg low, if_neg low]
    by_cases middle : length ≤ 65535
    · have two := number_bytes_length 2 length
      have front : (numberBytes 2 length ++ rest).take 2 = numberBytes 2 length :=
        List.take_left' two
      have number := @bytes_number_bytes 2 length (by omega)
      rw [if_pos middle, if_pos middle, if_neg (by decide), if_pos rfl, front, number,
        List.drop_left' two, if_neg]
      rw [List.length_append, two]
      omega
    · have eight := number_bytes_length 8 length
      have front : (numberBytes 8 length ++ rest).take 8 = numberBytes 8 length :=
        List.take_left' eight
      have number := @bytes_number_bytes 8 length (by omega)
      rw [if_neg middle, if_neg middle, if_neg (by decide), if_neg (by decide), front, number,
        List.drop_left' eight, if_neg]
      rw [List.length_append, eight]
      omega

theorem length_code_lt (length : Nat) : lengthCode length < 128 := by
  unfold lengthCode
  split_ifs <;> omega

theorem flagged_bits (flag : Bool) {value : Nat} (small : value < 128) :
    (UInt8.ofNat ((if flag then 128 else 0) + value)).toNat % 128 = value ∧
      decide (128 ≤ (UInt8.ofNat ((if flag then 128 else 0) + value)).toNat) = flag := by
  rw [UInt8.toNat_ofNat']
  cases flag with
  | true =>
      rw [if_pos rfl, decide_eq_true_iff]
      omega
  | false =>
      rw [if_neg Bool.false_ne_true, decide_eq_false_iff_not]
      omega

theorem decode_body {keyBytes body rest : List UInt8} {length : Nat} (short : length < 2 ^ 63)
    (size : body.length = length) :
    decodeLength (lengthCode length) (lengthBytes length ++ (keyBytes ++ body) ++ rest) =
        some (length, keyBytes ++ (body ++ rest)) ∧
      (keyBytes ++ (body ++ rest)).take keyBytes.length = keyBytes ∧
      ((keyBytes ++ (body ++ rest)).drop keyBytes.length).take length = body ∧
      (keyBytes ++ (body ++ rest)).drop (keyBytes.length + length) = rest := by
  refine ⟨?_, List.take_left' rfl, ?_, ?_⟩
  · rw [List.append_assoc, decode_length_bytes short, List.append_assoc]
  · rw [List.drop_left' rfl, List.take_left' size]
  · rw [← List.append_assoc]
    exact List.drop_left' (by rw [List.length_append, size])

theorem decode_encode {frame : Frame} (proper : Proper frame) (rest : List UInt8) :
    decodeFrame (encodeFrame frame ++ rest) = some (frame, rest) := by
  obtain ⟨fin, opcode, maskingKey, payload⟩ := frame
  have small : opcode < 16 := proper.opcode
  have short : payload.length < 2 ^ 63 := proper.short
  have control : 8 ≤ opcode → fin = true ∧ payload.length ≤ 125 := proper.control
  obtain ⟨opcodeBits, finBit⟩ := flagged_bits fin (Nat.lt_trans small (by decide : 16 < 128))
  obtain ⟨codeBits, maskBit⟩ := flagged_bits maskingKey.isSome (length_code_lt payload.length)
  have opcodeLow : (UInt8.ofNat ((if fin = true then 128 else 0) + opcode)).toNat % 16 =
      opcode := by
    omega
  have reserved : ¬(UInt8.ofNat ((if fin = true then 128 else 0) + opcode)).toNat / 16 % 8 ≠ 0 := by
    omega
  have whole : ¬(8 ≤ opcode ∧ (fin = false ∨ 125 < payload.length)) := by
    rintro ⟨high, cut | long⟩
    · rw [(control high).1] at cut
      cases cut
    · exact absurd (control high).2 (Nat.not_le_of_lt long)
  unfold encodeFrame
  rw [List.cons_append, List.cons_append, decodeFrame]
  dsimp only
  rw [finBit, maskBit, codeBits, opcodeLow, if_neg reserved]
  cases maskingKey with
  | none =>
      obtain ⟨length, key, body, behind⟩ :=
        @decode_body [] payload rest payload.length short rfl
      rw [List.length_nil] at body behind
      rw [Option.getD_none, length, Option.bind_some]
      simp only [Option.isSome_none, Bool.false_eq_true, if_false]
      rw [if_neg]
      · rw [body, behind]
      · rw [not_or]
        refine ⟨?_, whole⟩
        rw [List.nil_append, List.length_append]
        omega
  | some key =>
      have keyLength : key.length = 4 := proper.key key rfl
      obtain ⟨length, keyTaken, body, behind⟩ :=
        @decode_body key (masked key payload) rest payload.length short (masked_length key payload)
      rw [Option.getD_some, length, Option.bind_some]
      simp only [Option.isSome_some, if_true]
      rw [if_neg]
      · rw [← keyLength, keyTaken, body, behind, masked_masked]
      · rw [not_or]
        refine ⟨?_, whole⟩
        rw [List.length_append, List.length_append, masked_length, keyLength]
        omega

end Codec

end IotgoFirmware.Library.WebsocketFrames
