import IotgoFirmware.Library.CFaults
import IotgoFirmware.Library.CIntegers
import IotgoFirmware.Library.WebsocketFrames
import IotgoFirmware.Send.SendJson

/-!
# Encoding what is sent

`iotgoNetworkSendString` and `sendIoTgoPkg` put a string into a masked frame. Each has a buffer of
its own, and copies the string before it compares the length of the frame with its size.
-/

namespace IotgoFirmware.Send.NetworkFrames

open IotgoFirmware.Library.CFaults
open IotgoFirmware.Library.CIntegers
open IotgoFirmware.Library.CStrings
open IotgoFirmware.Library.WebsocketFrames
open IotgoFirmware.Send.SendJson (networkBufferSize pingFrame frameHeader networkFrame)

set_option autoImplicit false

/-- `IOTGO_DATA_LENGTH_OVER`. -/
def iotgoDataLengthOver : Int8 := 2

/-- The result, and what is passed to `espconn_send`. -/
structure Sending where
  ret : Int8
  passed : List (List UInt8)
deriving DecidableEq

section Encoders

variable (espconnSend : List UInt8 → Int8) (dataToSend : List UInt8)

/-- The body of both, with a buffer of some size. -/
def sendFrame (size : Nat) : Checked Sending := do
  let buffer := List.replicate size 0
  if pingFrame <+: dataToSend then
    let pinged ← storeAt buffer 0 pingFrame
    return ⟨espconnSend (pinged.take 6), [pinged.take 6]⟩
  else
    match frameHeader (strlen dataToSend) with
    | none => return ⟨iotgoDataLengthOver, []⟩
    | some header =>
        let headed ← storeAt buffer 0 header
        -- The copy, and only then the comparison with the size.
        let filled ← storeAt headed header.length (cString dataToSend)
        let len := uint16 (strlen dataToSend + header.length)
        if size < len then return ⟨iotgoDataLengthOver, []⟩
        else return ⟨espconnSend (filled.take len), [filled.take len]⟩

/-- With `network_buffer`. -/
def iotgoNetworkSendString : Checked Sending :=
  sendFrame espconnSend dataToSend networkBufferSize

/-- With `net_buffer`. -/
def sendIoTgoPkg : Checked Sending :=
  sendFrame espconnSend dataToSend networkBufferSize

end Encoders

section Frames

variable {espconnSend : List UInt8 → Int8} {dataToSend text header : List UInt8} {size : Nat}

def textFrame (text : List UInt8) : Frame where
  fin := true
  opcode := textOpcode
  maskingKey := some [0, 0, 0, 0]
  payload := text

/-- Nothing is sent, or one masked frame: the string as a text, or a ping. -/
def SendsFrame (espconnSend : List UInt8 → Int8) (dataToSend : List UInt8) (sending : Sending) :
    Prop :=
  sending = ⟨iotgoDataLengthOver, []⟩ ∨
    ∃ bytes frame, sending = ⟨espconnSend bytes, [bytes]⟩ ∧ decodeFrame bytes = some (frame, []) ∧
      frame.fin = true ∧ frame.maskingKey.isSome = true ∧
      if pingFrame <+: dataToSend then frame.opcode = pingOpcode ∧ frame.payload = []
      else frame.opcode = textOpcode ∧ frame.payload = cString dataToSend

theorem header_frame (found : frameHeader text.length = some header) :
    header ++ text = encodeFrame (textFrame text) := by
  unfold frameHeader at found
  unfold encodeFrame textFrame lengthCode lengthBytes
  dsimp only
  rw [masked_zero]
  split at found
  · rename_i low
    cases found
    rw [if_pos low, if_pos low]
    rfl
  · rename_i high
    split at found
    · rename_i middle
      cases found
      have wide : text.length ≤ 65535 := Nat.le_trans middle (by decide)
      have bytes : numberBytes 2 text.length =
          [UInt8.ofNat (text.length / 256 % 256), UInt8.ofNat (text.length % 256)] := rfl
      rw [if_neg high, if_neg high, if_pos wide, if_pos wide, bytes]
      rfl
    · cases found

theorem header_length (found : frameHeader text.length = some header) :
    header.length = if text.length ≤ 125 then 6 else 8 := by
  unfold frameHeader at found
  split at found
  · rename_i low
    cases found
    rw [if_pos low]
    rfl
  · rename_i high
    rw [if_neg high]
    split at found
    · cases found
      rfl
    · cases found

theorem header_none_iff : frameHeader text.length = none ↔ 65500 < text.length := by
  unfold frameHeader
  split
  · rename_i low
    exact iff_of_false (Option.some_ne_none _) (by omega)
  · split
    · rename_i low
      exact iff_of_false (Option.some_ne_none _) (by omega)
    · rename_i high
      exact iff_of_true rfl (Nat.lt_of_not_le high)

theorem stored_frame (fits : header.length + text.length ≤ size) :
    ∃ headed filled, storeAt (List.replicate size 0) 0 header = .ok headed ∧
      storeAt headed header.length text = .ok filled ∧
      filled.take (header.length + text.length) = header ++ text := by
  have front : 0 + header.length ≤ (List.replicate size (0 : UInt8)).length := by
    rw [List.length_replicate]
    omega
  refine ⟨_, _, store_at_ok_iff.2 ⟨front, rfl⟩, store_at_ok_iff.2 ⟨?_, rfl⟩, ?_⟩
  · simp
    omega
  · rw [List.take_zero, List.nil_append, List.take_left]
    exact List.take_left' List.length_append

theorem stored_fits {headed filled : List UInt8}
    (first : storeAt (List.replicate size 0) 0 header = .ok headed)
    (second : storeAt headed header.length text = .ok filled) :
    header.length + text.length ≤ size := by
  obtain ⟨room, content⟩ := store_at_ok_iff.1 first
  have within := (store_at_ok_iff.1 second).1
  rw [content] at within
  simp only [List.length_append, List.length_take, List.length_drop, List.length_replicate,
    Nat.zero_min, Nat.zero_add] at room within
  omega

theorem text_proper (short : text.length ≤ 65500) : Proper (textFrame text) where
  opcode := show textOpcode < 16 by decide
  key := by
    intro key known
    cases known
    rfl
  short := by
    change text.length < 2 ^ 63
    omega
  control := fun high => absurd (show 8 ≤ textOpcode from high) (by decide)

theorem frame_refused (other : ¬pingFrame <+: dataToSend)
    (long : frameHeader (strlen dataToSend) = none) :
    sendFrame espconnSend dataToSend networkBufferSize = .ok ⟨iotgoDataLengthOver, []⟩ := by
  unfold sendFrame
  rw [if_neg other, long]
  rfl

theorem ping_sent (ping : pingFrame <+: dataToSend) :
    sendFrame espconnSend dataToSend networkBufferSize =
      .ok ⟨espconnSend pingFrame, [pingFrame]⟩ := by
  have fits : 0 + pingFrame.length ≤ (List.replicate networkBufferSize (0 : UInt8)).length := by
    rw [List.length_replicate]
    decide
  have taken : ((List.replicate networkBufferSize (0 : UInt8)).take 0 ++ pingFrame ++
      (List.replicate networkBufferSize 0).drop (0 + pingFrame.length)).take 6 = pingFrame := by
    rw [List.take_zero, List.nil_append]
    exact List.take_left' rfl
  unfold sendFrame
  rw [if_pos ping]
  refine bind_ok_iff.2 ⟨_, store_at_ok_iff.2 ⟨fits, rfl⟩, ?_⟩
  rw [taken]
  rfl

theorem text_sent (other : ¬pingFrame <+: dataToSend)
    (found : frameHeader (strlen dataToSend) = some header)
    (room : header.length + strlen dataToSend ≤ networkBufferSize) :
    sendFrame espconnSend dataToSend networkBufferSize =
      .ok ⟨espconnSend (header ++ cString dataToSend), [header ++ cString dataToSend]⟩ := by
  obtain ⟨headed, filled, first, second, taken⟩ :=
    @stored_frame (cString dataToSend) header networkBufferSize room
  have small : header.length + strlen dataToSend < 65536 := Nat.lt_of_le_of_lt room (by decide)
  have total : uint16 ((strlen dataToSend : Nat) + (header.length : Nat)) =
      header.length + strlen dataToSend := by
    unfold uint16
    omega
  unfold sendFrame
  rw [if_neg other, found]
  refine bind_ok_iff.2 ⟨headed, first, bind_ok_iff.2 ⟨filled, second, ?_⟩⟩
  rw [total, if_neg (Nat.not_lt_of_le room), strlen, taken]
  rfl

theorem text_sends_frame (other : ¬pingFrame <+: dataToSend)
    (found : frameHeader (strlen dataToSend) = some header) :
    SendsFrame espconnSend dataToSend
      ⟨espconnSend (header ++ cString dataToSend), [header ++ cString dataToSend]⟩ := by
  have short : (cString dataToSend).length ≤ 65500 :=
    Nat.le_of_not_lt fun long => by
      rw [strlen, header_none_iff.2 long] at found
      cases found
  have decoded := decode_encode (text_proper short) []
  rw [List.append_nil, ← header_frame found] at decoded
  refine .inr ⟨_, _, rfl, decoded, rfl, rfl, ?_⟩
  rw [if_neg other]
  exact ⟨rfl, rfl⟩

theorem ping_sends_frame (ping : pingFrame <+: dataToSend) :
    SendsFrame espconnSend dataToSend ⟨espconnSend pingFrame, [pingFrame]⟩ := by
  refine .inr ⟨pingFrame, ⟨true, pingOpcode, some [0, 0, 0, 0], []⟩, rfl, by decide, rfl, rfl, ?_⟩
  rw [if_pos ping]
  exact ⟨rfl, rfl⟩

theorem text_fits {sending : Sending} (other : ¬pingFrame <+: dataToSend)
    (ended : sendFrame espconnSend dataToSend networkBufferSize = .ok sending)
    (found : frameHeader (strlen dataToSend) = some header) :
    header.length + strlen dataToSend ≤ networkBufferSize := by
  unfold sendFrame at ended
  rw [if_neg other, found] at ended
  rcases bind_ok_iff.1 ended with ⟨headed, first, later⟩
  rcases bind_ok_iff.1 later with ⟨filled, second, -⟩
  exact stored_fits first second

theorem header_fits_iff :
    (∀ header, frameHeader (strlen dataToSend) = some header →
        header.length + strlen dataToSend ≤ networkBufferSize) ↔
      strlen dataToSend ≤ 1528 ∨ 65500 < strlen dataToSend := by
  have size : networkBufferSize = 1536 := rfl
  cases found : frameHeader (strlen dataToSend) with
  | none => exact iff_of_true (fun header absent => by cases absent) (.inr (header_none_iff.1 found))
  | some header =>
      have short : ¬65500 < strlen dataToSend := fun long => by
        rw [strlen, header_none_iff.2 long] at found
        cases found
      have length : header.length = if strlen dataToSend ≤ 125 then 6 else 8 := header_length found
      constructor
      · intro fits
        have room := fits header rfl
        rw [length] at room
        left
        split at room <;> omega
      · intro bound other same
        cases same
        rw [length]
        split <;> omega

theorem sent_iff :
    (∃ sending, sendFrame espconnSend dataToSend networkBufferSize = .ok sending ∧
        SendsFrame espconnSend dataToSend sending) ↔
      pingFrame <+: dataToSend ∨ strlen dataToSend ≤ 1528 ∨ 65500 < strlen dataToSend := by
  by_cases ping : pingFrame <+: dataToSend
  · exact iff_of_true ⟨_, ping_sent ping, ping_sends_frame ping⟩ (.inl ping)
  · rw [or_iff_right ping, ← header_fits_iff]
    constructor
    · rintro ⟨sending, ended, -⟩ header found
      exact text_fits ping ended found
    · intro fits
      cases found : frameHeader (strlen dataToSend) with
      | none => exact ⟨_, frame_refused ping found, .inl rfl⟩
      | some header => exact ⟨_, text_sent ping found (fits header found), text_sends_frame ping found⟩

theorem network_frame_passed {sending : Sending}
    (ended : sendFrame espconnSend dataToSend networkBufferSize = .ok sending) :
    sending.passed = (networkFrame dataToSend).toList := by
  unfold networkFrame
  by_cases ping : pingFrame <+: dataToSend
  · rw [ping_sent ping] at ended
    cases ended
    rw [if_pos (List.isPrefixOf_iff_prefix.2 ping)]
    rfl
  · rw [if_neg fun same => ping (List.isPrefixOf_iff_prefix.1 same)]
    cases found : frameHeader (strlen dataToSend) with
    | none =>
        rw [frame_refused ping found] at ended
        cases ended
        rfl
    | some header =>
        have room := text_fits ping ended found
        rw [text_sent ping found room] at ended
        cases ended
        rw [Option.bind_some, if_neg (by omega)]
        rfl

end Frames

section Senders

variable (dataToSend : List UInt8)

/-- No byte lies outside of the buffer, and nothing or one frame goes out. -/
def SendsInside (send : (List UInt8 → Int8) → List UInt8 → Checked Sending) : Prop :=
  ∀ espconnSend, ∃ sending, send espconnSend dataToSend = .ok sending ∧
    SendsFrame espconnSend dataToSend sending

/-- The comparison with the size of the buffer comes behind the copy: it refuses no string whose
frame is longer than the buffer before the copy has left it. -/
theorem network_sends_inside_iff :
    (SendsInside dataToSend iotgoNetworkSendString ∧ SendsInside dataToSend sendIoTgoPkg) ↔
      pingFrame <+: dataToSend ∨ strlen dataToSend ≤ 1528 ∨ 65500 < strlen dataToSend := by
  constructor
  · rintro ⟨inside, -⟩
    exact sent_iff.1 (inside fun _ => 0)
  · intro bound
    exact ⟨fun espconnSend => sent_iff.2 bound, fun espconnSend => sent_iff.2 bound⟩

/-- A string of 1529 bytes. -/
theorem long_string_outside :
    ¬(SendsInside (List.replicate 1529 65) iotgoNetworkSendString ∧
      SendsInside (List.replicate 1529 65) sendIoTgoPkg) := by
  have length : strlen (List.replicate 1529 65) = 1529 := by
    rw [strlen, cString, List.takeWhile_replicate]
    exact List.length_replicate
  have other : ¬pingFrame <+: List.replicate 1529 65 := by
    rintro ⟨rest, split⟩
    cases split
  rintro ⟨inside, -⟩
  have bound := sent_iff.1 (inside fun _ => 0)
  rw [length] at bound
  rcases bound with ping | short | long
  · exact other ping
  · exact absurd short (by decide)
  · exact absurd long (by decide)

end Senders

end IotgoFirmware.Send.NetworkFrames
