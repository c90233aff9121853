import IotgoFirmware.Uart.U2artQueue

/-!
# A frame that comes in piece by piece is decoded once

A well-formed frame says how long its data is in one of three forms. Between two
events the parser is waiting for the preamble, has the header, has the length, or is
done with the frame, and in each case the bytes in the queue are those that have come
in and are not used yet.
-/

namespace IotgoFirmware.Uart.FrameDecode

open IotgoFirmware.Library.CIntegers
open IotgoFirmware.Library.CStrings
open IotgoFirmware.Library.LoopRules
open IotgoFirmware.Library.RingQueues
open IotgoFirmware.Library.StepRuns
open IotgoFirmware.Uart.U2artSchedule
open IotgoFirmware.Uart.U2artSchedule.ByteQueue
open IotgoFirmware.Uart.U2artQueue

set_option autoImplicit false

section Words

theorem to_nat_of_small {value : Nat} (small : value < 256) :
    (UInt8.ofNat value).toNat = value := by
  rw [UInt8.toNat_ofNat', Nat.mod_eq_of_lt small]

theorem word16_length {length : Nat} (small : length < 65536) :
    word16 (UInt8.ofNat (length / 256)) (UInt8.ofNat (length % 256)) = length := by
  rw [word16, to_nat_of_small (by omega), to_nat_of_small (by omega),
    ← Nat.shiftLeft_add_eq_or_of_lt (by omega), Nat.shiftLeft_eq]
  omega

theorem word32_bytes {word : Nat} (small : word < 4294967296) :
    word32 (UInt8.ofNat (word / 65536 / 256)) (UInt8.ofNat (word / 65536 % 256))
      (UInt8.ofNat (word % 65536 / 256)) (UInt8.ofNat (word % 65536 % 256)) = word := by
  rw [word32, to_nat_of_small (by omega), to_nat_of_small (by omega), to_nat_of_small (by omega),
    to_nat_of_small (by omega), Nat.or_assoc, Nat.or_assoc]
  rw [← Nat.shiftLeft_add_eq_or_of_lt (i := 8) (by omega)]
  rw [← Nat.shiftLeft_add_eq_or_of_lt (i := 16) (by simp only [Nat.shiftLeft_eq]; omega)]
  rw [← Nat.shiftLeft_add_eq_or_of_lt (i := 24) (by simp only [Nat.shiftLeft_eq]; omega)]
  simp only [Nat.shiftLeft_eq]
  omega

theorem get_crc32_lt (data : List UInt8) : getCrc32 data < 4294967296 :=
  BitVec.isLt _

theorem get_crc32_nil : getCrc32 [] = 0 := by
  decide

end Words

section Frames

inductive LengthForm where
  | short
  | two
  | four
  deriving DecidableEq

/-- A frame as a sender may write it. -/
structure Frame where
  form : LengthForm
  cf : Bool
  payload : List UInt8
  nonempty : payload ≠ []
  bound : payload.length ≤ 255
  nulFree : (0 : UInt8) ∉ payload
  fits : form = .short → payload.length ≤ 125

namespace Frame

def lengthCode (frame : Frame) : Nat :=
  match frame.form with
  | .short => frame.payload.length
  | .two => 126
  | .four => 127

def header (frame : Frame) : UInt8 :=
  UInt8.ofNat (if frame.cf then frame.lengthCode ||| 0x80 else frame.lengthCode)

def extended (frame : Frame) : List UInt8 :=
  match frame.form with
  | .short => []
  | .two => lengthBytes2 frame.payload.length
  | .four => lengthBytes4 frame.payload.length

def checksum (frame : Frame) : List UInt8 :=
  if frame.cf then lengthBytes4 (getCrc32 frame.payload) else []

def body (frame : Frame) : List UInt8 :=
  frame.checksum ++ frame.payload

def bytes (frame : Frame) : List UInt8 :=
  0xAA :: 0x55 :: frame.header :: (frame.extended ++ frame.body)

variable (frame : Frame)

theorem payload_length_pos : 0 < frame.payload.length :=
  List.length_pos_iff.2 frame.nonempty

theorem length_code_bounds : 0 < frame.lengthCode ∧ frame.lengthCode ≤ 127 := by
  have positive := frame.payload_length_pos
  have fits := frame.fits
  unfold lengthCode
  cases form : frame.form with
  | short =>
      have := fits form
      constructor
      · exact positive
      · dsimp only
        omega
  | two => exact ⟨by norm_num, by norm_num⟩
  | four => exact ⟨by norm_num, by norm_num⟩

theorem header_code (code : Nat) (small : code ≤ 127) (cf : Bool) :
    (UInt8.ofNat (if cf then code ||| 0x80 else code) >>> 7 = 1 ↔ cf = true) ∧
      (UInt8.ofNat (if cf then code ||| 0x80 else code) &&& 0x7f).toNat = code := by
  revert cf code
  decide

theorem header_flag : (frame.header >>> 7 = 1) = (frame.cf = true) :=
  propext (header_code _ frame.length_code_bounds.2 frame.cf).1

theorem header_length : (frame.header &&& 0x7f).toNat = frame.lengthCode :=
  (header_code _ frame.length_code_bounds.2 frame.cf).2

/-- What is known of the frame once its header is read. -/
def opened (frame : Frame) : U2artData where
  start := true
  cf := frame.cf
  length := frame.lengthCode
  extendLength := 0
  crc32 := 0
  root := none

/-- And once its length is. -/
def measured (frame : Frame) : U2artData :=
  { frame.opened with
    extendLength := if frame.form = .short then 0 else frame.payload.length }

theorem data_length_measured : dataLength frame.measured = frame.payload.length := by
  have fits := frame.fits
  cases form : frame.form with
  | short =>
      have short := fits form
      simp only [dataLength, measured, opened, lengthCode, form]
      exact if_neg (by omega)
  | two => simp [dataLength, measured, opened, lengthCode, form]
  | four => simp [dataLength, measured, opened, lengthCode, form]

theorem data_len_measured : dataLen frame.measured = frame.body.length := by
  have bound := frame.bound
  rw [dataLen, data_length_measured]
  cases flag : frame.cf with
  | false => simp [measured, opened, body, checksum, flag]
  | true =>
      simp only [measured, opened, body, checksum, flag, if_true, lengthBytes4,
        List.length_append, List.length_cons, List.length_nil]
      omega

theorem bytes_length : frame.bytes.length = 3 + frame.extended.length + frame.body.length := by
  simp only [bytes, List.length_cons, List.length_append]
  omega

theorem bytes_length_le : frame.bytes.length ≤ 266 := by
  have bound := frame.bound
  have extended : frame.extended.length ≤ 4 := by
    unfold extended
    cases frame.form <;> simp [lengthBytes2, lengthBytes4]
  have checksum : frame.checksum.length ≤ 4 := by
    unfold checksum
    split_ifs <;> simp [lengthBytes4]
  rw [bytes_length, body, List.length_append]
  omega

end Frame

end Frames

section Passes

/-- The buffer with its first bytes written. -/
def written (front : List UInt8) : List UInt8 :=
  front ++ List.replicate (readUart0Buffer - front.length) 0

/-- Behind the bytes written there is a zero. -/
theorem written_zero {front : List UInt8} (room : front.length < 1024) :
    written front =
      front ++ 0 :: List.replicate (readUart0Buffer - (front.length + 1)) 0 := by
  have cells : readUart0Buffer - front.length = readUart0Buffer - (front.length + 1) + 1 := by
    unfold readUart0Buffer
    omega
  rw [written, cells, List.replicate_succ]

theorem written_set {front : List UInt8} (byte : UInt8) (room : front.length < 1024) :
    (written front).set front.length byte = written (front ++ [byte]) := by
  rw [written_zero room, List.set_append_right _ _ (Nat.le_refl _), Nat.sub_self,
    List.set_cons_zero, written, List.length_append, List.length_singleton, List.append_assoc,
    List.singleton_append]

theorem c_string_written {front : List UInt8} (nulFree : (0 : UInt8) ∉ front)
    (room : front.length < 1024) : cString (written front) = front := by
  rw [written_zero room]
  exact c_string_terminated _ nulFree

theorem written_take (front : List UInt8) : (written front).take front.length = front :=
  List.take_left

/-- A queue gives some bytes one after the other. -/
inductive Supplies {Queue : Type} [ByteQueue Queue] : Queue → List UInt8 → Queue → Prop where
  | nil {queue : Queue} : Supplies queue [] queue
  | cons {queue next left : Queue} {byte : UInt8} {rest : List UInt8}
      (first : uart0RxRead queue = (byte, next)) (later : Supplies next rest left) :
      Supplies queue (byte :: rest) left

theorem supplies_bytes (bytes more : List UInt8) : Supplies (bytes ++ more) bytes more := by
  induction bytes with
  | nil => exact .nil
  | cons byte rest ih => exact .cons rfl ih

variable {Queue : Type} [ByteQueue Queue]

theorem read_word32_supplied {queue next : Queue} {a b c d : UInt8}
    (supplied : Supplies queue [a, b, c, d] next) :
    readWord32 queue = (word32 a b c d, next) := by
  cases supplied with
  | cons first supplied =>
      cases supplied with
      | cons second supplied =>
          cases supplied with
          | cons third supplied =>
              cases supplied with
              | cons fourth supplied =>
                  cases supplied
                  simp only [readWord32, first, second, third, fourth]

variable (state : U2art Queue)

/-- The passes of the loop once the checksum is read, or there is none. -/
theorem get_data_passes {length : Nat} {flag : Bool} {left : Queue} (fuel : Nat)
    (front rest : List UInt8) (total : front.length + rest.length = length) (small : length < 256)
    (read : state.data.cf = true → flag = true) (enough : rest.length < fuel)
    (supplied : Supplies state.rxBuffer rest left) :
    iterate (getDataBody length) fuel {
        i := front.length
        getCrc32Flag := flag
        uart0Buffer := written front
        state := state } =
      .exit {
        i := length
        getCrc32Flag := flag
        uart0Buffer := written (front ++ rest)
        state := { state with rxBuffer := left } } := by
  induction rest generalizing fuel front state with
  | nil =>
      cases supplied
      cases fuel with
      | zero => cases enough
      | succ fuel =>
          rw [List.length_nil, Nat.add_zero] at total
          simp only [iterate, getDataBody, total, Nat.lt_irrefl, if_false, List.append_nil]
  | cons byte rest ih =>
      cases supplied with
      | @cons _ next _ _ _ first later =>
          cases fuel with
          | zero => cases enough
          | succ fuel =>
              rw [List.length_cons] at total enough
              have passed := ih { state with rxBuffer := next } fuel (front ++ [byte])
                (by rw [List.length_append, List.length_singleton]; omega) read (by omega) later
              rw [List.length_append, List.length_singleton, List.append_assoc,
                List.singleton_append] at passed
              have unread : ¬ (state.data.cf = true ∧ flag = false) := by
                rintro ⟨wanted, missing⟩
                rw [read wanted] at missing
                cases missing
              have kept : (flag || state.data.cf) = flag := by
                cases wanted : state.data.cf with
                | false => exact Bool.or_false flag
                | true => rw [read wanted]; rfl
              rw [← passed]
              simp only [iterate, getDataBody, if_pos (show front.length < length by omega),
                if_neg unread, kept, first, written_set byte (show front.length < 1024 by omega),
                Nat.mod_eq_of_lt (show front.length + 1 < 256 by omega)]

/-- Without a checksum the loop takes the data. -/
theorem get_data_reads {left : Queue} (payload : List UInt8) (small : payload.length < 256)
    (plain : state.data.cf = false) (supplied : Supplies state.rxBuffer payload left) :
    iterate (getDataBody payload.length) 256 (dataLoopStart state) =
      .exit {
        i := payload.length
        getCrc32Flag := false
        uart0Buffer := written payload
        state := { state with rxBuffer := left } } := by
  have passed := get_data_passes state 256 [] payload
    (by rw [List.length_nil, Nat.zero_add]) small (by rw [plain]; exact id) (by omega) supplied
  rw [List.nil_append] at passed
  exact passed

/-- The checksum is taken in the first pass, before the first byte of the data. -/
theorem get_data_reads_crc {next left : Queue} {a b c d first : UInt8} (rest : List UInt8)
    (small : rest.length + 1 < 256) (cf : state.data.cf = true)
    (crc : Supplies state.rxBuffer [a, b, c, d] next)
    (supplied : Supplies next (first :: rest) left) :
    iterate (getDataBody (rest.length + 1)) 256 (dataLoopStart state) =
      .exit {
        i := rest.length + 1
        getCrc32Flag := true
        uart0Buffer := written (first :: rest)
        state := { state with
          rxBuffer := left
          data := { state.data with crc32 := word32 a b c d } } } := by
  cases supplied with
  | @cons _ after _ _ _ head later =>
      let checked : U2art Queue := { state with
        rxBuffer := after
        data := { state.data with crc32 := word32 a b c d } }
      have set : (written []).set ([] : List UInt8).length first = written [first] :=
        written_set first (by decide)
      have pass : getDataBody (rest.length + 1) (dataLoopStart state) = .again {
          i := [first].length
          getCrc32Flag := true
          uart0Buffer := written [first]
          state := checked } := by
        simp only [getDataBody, dataLoopStart, if_pos (Nat.succ_pos rest.length), cf,
          read_word32_supplied crc, and_self, if_true, head, Bool.false_or, checked]
        rw [← set]
        rfl
      rw [iterate, pass]
      dsimp only
      rw [get_data_passes checked 255 [first] rest
        (by rw [List.length_singleton, Nat.add_comm]) small (fun _ => rfl) (by omega) later,
        List.singleton_append]

end Passes

section Reading

variable (frame : Frame) (processor : CmdProcessor) (answer : CmdAnswer)
variable (state : U2art (List UInt8))

/-- Fewer than three bytes are left for the next call. -/
theorem find_preamble_few (few : state.rxBuffer.length < 3) : findPreamble state = state := by
  have body : findPreambleBody state = .exit state := by
    rw [findPreambleBody, if_neg]
    simp only [uart0RxAvailable]
    omega
  simp only [findPreamble, iterate, body]

theorem find_preamble_frame {more : List UInt8} (zero : state.data = .zero)
    (stored : state.rxBuffer = 0xAA :: 0x55 :: frame.header :: more) :
    findPreamble state = { state with
      rxBuffer := more, timeroutCouter := 0, data := frame.opened } := by
  have flag : decide (frame.header >>> 7 = 1) = frame.cf := by
    simp only [frame.header_flag, Bool.decide_eq_true]
  have body : findPreambleBody state = .exit { state with
      rxBuffer := more, timeroutCouter := 0, data := frame.opened } := by
    simp [findPreambleBody, stored, zero, uart0RxAvailable, uart0RxRead, U2artData.zero,
      Frame.opened, frame.header_length, flag]
  simp only [findPreamble, iterate, body]

theorem read_word16_bytes {length : Nat} (small : length < 65536) (more : List UInt8) :
    readWord16 (lengthBytes2 length ++ more) = (length, more) := by
  simp only [lengthBytes2, readWord16, List.cons_append, List.nil_append, uart0RxRead,
    word16_length small]

theorem read_word32_bytes {word : Nat} (small : word < 4294967296) (more : List UInt8) :
    readWord32 (lengthBytes4 word ++ more) = (word, more) := by
  simp only [lengthBytes4, readWord32, List.cons_append, List.nil_append, uart0RxRead,
    word32_bytes small]

theorem get_extend_length_frame {more : List UInt8} (opened : state.data = frame.opened)
    (stored : state.rxBuffer = frame.extended ++ more) :
    getExtendLength state =
      (true, { state with rxBuffer := more, data := frame.measured }) := by
  have bound := frame.bound
  have positive := frame.payload_length_pos
  cases form : frame.form with
  | short =>
      have fits := frame.fits form
      rw [Frame.extended, form] at stored
      simp only [getExtendLength, opened, Frame.opened, Frame.measured, Frame.lengthCode, form,
        if_pos (show frame.payload.length < 126 ∧ 0 < frame.payload.length by omega), if_true]
      rw [show more = state.rxBuffer from stored.symm]
  | two =>
      rw [Frame.extended, form] at stored
      have room : 2 ≤ uart0RxAvailable (lengthBytes2 frame.payload.length ++ more) := by
        simp [uart0RxAvailable, lengthBytes2]
      simp [getExtendLength, opened, Frame.opened, Frame.measured, Frame.lengthCode, form, room,
        stored, read_word16_bytes (show frame.payload.length < 65536 by omega)]
  | four =>
      rw [Frame.extended, form] at stored
      have room : 4 ≤ uart0RxAvailable (lengthBytes4 frame.payload.length ++ more) := by
        simp [uart0RxAvailable, lengthBytes4]
      simp [getExtendLength, opened, Frame.opened, Frame.measured, Frame.lengthCode, form, room,
        stored, read_word32_bytes (show frame.payload.length < 4294967296 by omega)]

theorem take_length_frame {more : List UInt8} (unread : state.getLength = false)
    (quiet : state.result = .null) (opened : state.data = frame.opened)
    (stored : state.rxBuffer = frame.extended ++ more) :
    takeLength state = { state with
      rxBuffer := more, getLength := true, data := frame.measured } := by
  simp only [takeLength, unread, readLength, get_extend_length_frame frame state opened stored]
  simp [quiet]

/-- The parser waits for the rest of the length. -/
theorem take_length_waits (unread : state.getLength = false) (quiet : state.result = .null)
    (opened : state.data = frame.opened)
    (few : state.rxBuffer.length < frame.extended.length) : takeLength state = state := by
  have waits : getExtendLength state = (false, state) := by
    cases form : frame.form with
    | short => simp [Frame.extended, form] at few
    | two =>
        simp only [Frame.extended, form, lengthBytes2, List.length_cons, List.length_nil] at few
        have short : ¬ 2 ≤ uart0RxAvailable state.rxBuffer := by
          simp only [uart0RxAvailable]
          omega
        simp [getExtendLength, opened, Frame.opened, Frame.lengthCode, form, short]
    | four =>
        simp only [Frame.extended, form, lengthBytes4, List.length_cons, List.length_nil] at few
        have short : ¬ 4 ≤ uart0RxAvailable state.rxBuffer := by
          simp only [uart0RxAvailable]
          omega
        simp [getExtendLength, opened, Frame.opened, Frame.lengthCode, form, short]
  simp only [takeLength, unread, readLength, waits, Bool.false_eq_true, if_false, if_pos quiet]
  rw [← unread]

/-- The loop takes the checksum and the payload, and nothing behind them. -/
theorem get_data_loop {more : List UInt8} (measured : state.data = frame.measured)
    (stored : state.rxBuffer = frame.body ++ more) :
    iterate (getDataBody frame.payload.length) 256 (dataLoopStart state) =
      .exit {
        i := frame.payload.length
        getCrc32Flag := frame.cf
        uart0Buffer := written frame.payload
        state := { state with
          rxBuffer := more
          data := { frame.measured with
            crc32 := if frame.cf then getCrc32 frame.payload else 0 } } } := by
  have bound := frame.bound
  have flag : state.data.cf = frame.cf := by
    rw [measured]
    rfl
  cases wanted : frame.cf with
  | false =>
      have buffer : state.rxBuffer = frame.payload ++ more := by
        rw [stored, Frame.body, Frame.checksum, wanted]
        rfl
      rw [get_data_reads state frame.payload (by omega) (flag.trans wanted)
        (buffer ▸ supplies_bytes frame.payload more), measured]
      rfl
  | true =>
      obtain ⟨first, rest, payload⟩ := List.exists_cons_of_ne_nil frame.nonempty
      have count : frame.payload.length = rest.length + 1 := by
        rw [payload, List.length_cons]
      have buffer : state.rxBuffer =
          lengthBytes4 (getCrc32 frame.payload) ++ (frame.payload ++ more) := by
        rw [stored, Frame.body, Frame.checksum, wanted, if_pos rfl, List.append_assoc]
      have crc : Supplies state.rxBuffer (lengthBytes4 (getCrc32 frame.payload))
          (frame.payload ++ more) := buffer ▸ supplies_bytes _ _
      have data : Supplies (frame.payload ++ more) (first :: rest) more :=
        payload ▸ supplies_bytes _ _
      rw [count, get_data_reads_crc state rest (by omega) (flag.trans wanted) crc data,
        word32_bytes (get_crc32_lt frame.payload), payload, measured]
      rfl

/-- All of the body is there: it is taken, and its checksum is the right one. -/
theorem get_data_frame {more : List UInt8} (measured : state.data = frame.measured)
    (stored : state.rxBuffer = frame.body ++ more) :
    ∃ data, getData processor state =
      some (if (processor.cJSONParse frame.payload).any (·.isArray) then
        (true, { state with
          rxBuffer := more
          data := data
          log := state.log ++ [.cJSONParse frame.payload] })
      else
        (false, { state with
          rxBuffer := more
          data := data
          result := .formatError
          log := state.log ++ [.cJSONParse frame.payload] })) ∧
      data.root = processor.cJSONParse frame.payload := by
  have bound := frame.bound
  have length : dataLength state.data = frame.payload.length := by
    rw [measured, frame.data_length_measured]
  have len : dataLen state.data ≤ uart0RxAvailable state.rxBuffer := by
    rw [measured, frame.data_len_measured, stored]
    simp [uart0RxAvailable]
  have text := c_string_written frame.nulFree (show frame.payload.length < 1024 by omega)
  rw [getData, length, if_neg (show ¬ readUart0Buffer < frame.payload.length by
    unfold readUart0Buffer; omega), if_pos len, get_data_loop frame state measured stored]
  refine ⟨{ frame.measured with
    crc32 := if frame.cf then getCrc32 frame.payload else 0
    root := processor.cJSONParse frame.payload }, ?_, rfl⟩
  have accepted : crcResult frame.cf frame.payload =
      if frame.cf then getCrc32 frame.payload else 0 := rfl
  simp only [checkData, written_take, Frame.measured, Frame.opened, accepted, if_true, text, emit]

/-- Not all of the body is there: the parser waits for it. -/
theorem get_data_waits (measured : state.data = frame.measured)
    (few : state.rxBuffer.length < frame.body.length) :
    getData processor state = some (false, state) := by
  have bound := frame.bound
  have length : dataLength state.data = frame.payload.length := by
    rw [measured, frame.data_length_measured]
  have len : ¬ dataLen state.data ≤ uart0RxAvailable state.rxBuffer := by
    rw [measured, frame.data_len_measured]
    simp only [uart0RxAvailable]
    omega
  rw [getData, length, if_neg (show ¬ readUart0Buffer < frame.payload.length by
    unfold readUart0Buffer; omega), if_neg len]

/-- What the command ends with, and what it does on the way. -/
def cmdOutcome (processor : CmdProcessor) (answer : CmdAnswer) (name : List UInt8) :
    U2artError × List U2artEffect :=
  match processor.cmd.find? (fun cmd => cmd.cmd = name) with
  | some cmd => if cmd.action then (answer.1, [.action cmd.cmd]) else (.insideError, [])
  | none => (.noSupport, [])

theorem cmd_outcome_ne_null (name : List UInt8) :
    (cmdOutcome processor answer name).1 ≠ .null := by
  unfold cmdOutcome
  split
  · split_ifs
    · exact answer.2
    · exact U2artError.noConfusion
  · exact U2artError.noConfusion

/-- A command and the error code that answers it, when it fails. -/
def cmdEffects (processor : CmdProcessor) (answer : CmdAnswer) (name : List UInt8) :
    List U2artEffect :=
  (cmdOutcome processor answer name).2 ++
    ((errorCode (cmdOutcome processor answer name).1).map .cmdSendRetToMcu).toList

theorem process_cmd_named {json : CJson} {name : List UInt8} (root : state.data.root = some json)
    (array : json.isArray = true) (first : json.items[0]? = some (some name)) :
    processCmd processor answer state = some { state with
      result := (cmdOutcome processor answer name).1
      log := state.log ++ .processCmd (some json) :: (cmdOutcome processor answer name).2 } := by
  have item : ((some json).filter (·.isArray)).bind (·.items[0]?) = some (some name) := by
    rw [Option.filter_some, array, if_pos rfl, Option.bind_some, first]
  simp only [processCmd, root, item, cmdOutcome, emit]
  cases processor.cmd.find? (fun cmd => cmd.cmd = name) with
  | none => rfl
  | some cmd => by_cases called : cmd.action <;> simp [called]

theorem take_data_frame {json : CJson} {name more : List UInt8}
    (parses : processor.cJSONParse frame.payload = some json) (array : json.isArray = true)
    (first : json.items[0]? = some (some name)) (read : state.getLength = true)
    (measured : state.data = frame.measured) (stored : state.rxBuffer = frame.body ++ more) :
    takeData processor answer state = some { state with
      rxBuffer := more
      data := .zero
      result := .null
      getLength := false
      log := state.log ++
        .cJSONParse frame.payload :: .processCmd (some json) ::
          cmdEffects processor answer name } := by
  obtain ⟨data, got, root⟩ := get_data_frame frame processor state measured stored
  rw [parses, if_pos (by rw [Option.any_some]; exact array)] at got
  have failed := cmd_outcome_ne_null processor answer name
  have command := process_cmd_named processor answer { state with
    rxBuffer := more
    data := data
    log := state.log ++ [.cJSONParse frame.payload] } (root.trans parses) array first
  rw [takeData, if_pos read, readData, got, Option.bind_some, if_pos rfl, command]
  simp [processResult, failed, processErrorCmd, cmdEffects]

theorem take_data_waits (quiet : state.result = .null) (measured : state.data = frame.measured)
    (few : state.rxBuffer.length < frame.body.length) :
    takeData processor answer state = some state := by
  have waits : readData processor answer state = some state := by
    simp [readData, get_data_waits frame processor state measured few, processResult, quiet]
  rw [takeData, waits, ite_self]

end Reading

section Pieces

/-- The parser has the header; the bytes that are still to come are `pending`. -/
inductive Reading (frame : Frame) (state : U2art (List UInt8)) (pending : List UInt8) : Prop where
  | opened (data : state.data = frame.opened) (unread : state.getLength = false)
      (bytes : state.rxBuffer ++ pending = frame.extended ++ frame.body)
  | measured (data : state.data = frame.measured) (read : state.getLength = true)
      (bytes : state.rxBuffer ++ pending = frame.body)

variable {frame : Frame} {processor : CmdProcessor} {answer : CmdAnswer}
variable {state : U2art (List UInt8)} {pending : List UInt8}

theorem reading_started (reading : Reading frame state pending) : state.data.start = true := by
  cases reading with
  | opened data => rw [data]; rfl
  | measured data => rw [data]; rfl

theorem take_length_reading (reading : Reading frame state pending) (quiet : state.result = .null) :
    (∃ more, takeLength state = { state with
        rxBuffer := more, getLength := true, data := frame.measured } ∧
      more ++ pending = frame.body) ∨
    (takeLength state = state ∧ state.getLength = false ∧ pending ≠ []) := by
  cases reading with
  | opened data unread bytes =>
      by_cases few : state.rxBuffer.length < frame.extended.length
      · refine .inr ⟨take_length_waits frame state unread quiet data few, unread, ?_⟩
        intro nothing
        have lengths := congrArg List.length bytes
        rw [nothing, List.append_nil, List.length_append] at lengths
        omega
      · obtain ⟨more, stored⟩ : ∃ more, state.rxBuffer = frame.extended ++ more := by
          have front := List.prefix_of_prefix_length_le
            (List.prefix_append frame.extended frame.body) (bytes ▸ List.prefix_append state.rxBuffer pending) (by omega)
          exact front.imp fun _ same => same.symm
        refine .inl ⟨more, take_length_frame frame state unread quiet data stored, ?_⟩
        rw [stored, List.append_assoc] at bytes
        exact List.append_cancel_left bytes
  | measured data read bytes =>
      refine .inl ⟨state.rxBuffer, ?_, bytes⟩
      rw [takeLength, if_pos read, ← data, ← read]

/-- The frame is not all there: the parser goes on with it. -/
theorem take_frame_reading (processor : CmdProcessor) (answer : CmdAnswer)
    (reading : Reading frame state pending)
    (quiet : state.result = .null) (more : pending ≠ []) :
    ∃ next, takeFrame processor answer state = some next ∧ Reading frame next pending ∧
      next.result = .null ∧ next.timeroutCouter = state.timeroutCouter ∧ next.log = state.log := by
  rw [takeFrame, if_pos (reading_started reading)]
  rcases take_length_reading reading quiet with ⟨rest, taken, bytes⟩ | ⟨waits, unread, -⟩
  · have few : rest.length < frame.body.length := by
      have lengths := congrArg List.length bytes
      have positive := List.length_pos_iff.2 more
      rw [List.length_append] at lengths
      omega
    let next : U2art (List UInt8) :=
      { state with rxBuffer := rest, getLength := true, data := frame.measured }
    rw [taken, take_data_waits frame processor answer next quiet rfl few]
    exact ⟨next, rfl, .measured rfl rfl bytes, quiet, rfl, rfl⟩
  · rw [waits, takeData, unread]
    exact ⟨state, rfl, reading, quiet, rfl, rfl⟩

theorem take_frame_done {json : CJson} {name : List UInt8}
    (parses : processor.cJSONParse frame.payload = some json) (array : json.isArray = true)
    (first : json.items[0]? = some (some name)) (reading : Reading frame state [])
    (quiet : state.result = .null) :
    takeFrame processor answer state = some { state with
      rxBuffer := []
      data := .zero
      result := .null
      getLength := false
      log := state.log ++
        .cJSONParse frame.payload :: .processCmd (some json) ::
          cmdEffects processor answer name } := by
  rw [takeFrame, if_pos (reading_started reading)]
  rcases take_length_reading reading quiet with ⟨rest, taken, bytes⟩ | ⟨-, -, missing⟩
  · rw [List.append_nil] at bytes
    rw [taken, take_data_frame frame processor answer _ parses array first rfl rfl
      (bytes.trans (List.append_nil frame.body).symm)]
  · exact absurd rfl missing

/-- Waiting for a preamble, as before the first call. -/
structure Waiting {Queue : Type} (state : U2art Queue) : Prop where
  data : state.data = .zero
  quiet : state.result = .null
  unread : state.getLength = false
  counter : state.timeroutCouter < timeroutTime

/-- A time-out before the preamble changes nothing but the count. -/
theorem check_timerout_idle (state : U2art (List UInt8)) (data : state.data = .zero)
    (quiet : state.result = .null) :
    ∃ counter, counter < timeroutTime ∧
      checkTimerout state = { state with timeroutCouter := counter } := by
  by_cases early : state.timeroutCouter < timeroutTime
  · exact ⟨state.timeroutCouter, early, by rw [checkTimerout, if_neg (Nat.not_le_of_lt early)]⟩
  · refine ⟨0, by decide, ?_⟩
    rw [checkTimerout, if_pos (Nat.le_of_not_lt early), processErrorCmd, ← data, ← quiet, quiet]
    simp [errorCode]

theorem check_timerout_early (counter : state.timeroutCouter < timeroutTime) :
    checkTimerout state = state := by
  rw [checkTimerout, if_neg (Nat.not_le_of_lt counter)]

/-- Three bytes of a frame are its preamble and its header. -/
theorem header_split {stored : List UInt8} (bytes : stored ++ pending = frame.bytes)
    (enough : ¬ stored.length < 3) :
    ∃ more, stored = 0xAA :: 0x55 :: frame.header :: more ∧
      more ++ pending = frame.extended ++ frame.body := by
  have header : [0xAA, 0x55, frame.header] <+: frame.bytes := List.prefix_append _ _
  obtain ⟨more, same⟩ := List.prefix_of_prefix_length_le header
    (bytes ▸ List.prefix_append stored pending)
    (by simp only [List.length_cons, List.length_nil]; omega)
  refine ⟨more, same.symm, ?_⟩
  rw [← same, Frame.bytes] at bytes
  simpa using bytes

/-- What the parser does with a frame whose payload parses. -/
def decodeEffects (processor : CmdProcessor) (answer : CmdAnswer) (payload : List UInt8)
    (json : CJson) (name : List UInt8) : List U2artEffect :=
  .cJSONParse payload :: .processCmd (some json) :: cmdEffects processor answer name

/-- The frame is taken and answered, and the parser waits for the next one. -/
structure Decoded {Queue : Type} (processor : CmdProcessor) (frame : Frame) (json : CJson)
    (name : List UInt8) (log : List U2artEffect) (state : U2art Queue) : Prop where
  waiting : Waiting state
  logged : ∃ answer, state.log = log ++ decodeEffects processor answer frame.payload json name

/-- How far the frame has come, `pending` being the bytes that are still to come and
`calls` the number of calls since the header came in. -/
inductive Decoding (processor : CmdProcessor) (frame : Frame) (json : CJson) (name : List UInt8)
    (log : List U2artEffect) (calls : Nat) (state : U2art (List UInt8))
    (pending : List UInt8) : Prop where
  | waiting (waiting : Waiting state) (bytes : state.rxBuffer ++ pending = frame.bytes)
      (logged : state.log = log)
  | reading (reading : Reading frame state pending) (quiet : state.result = .null)
      (counter : state.timeroutCouter < calls) (logged : state.log = log)
  | done (decoded : Decoded processor frame json name log state) (empty : state.rxBuffer = [])
      (complete : pending = [])

theorem reading_length (reading : Reading frame state pending) :
    state.rxBuffer.length + pending.length ≤ frame.extended.length + frame.body.length := by
  cases reading with
  | opened _ _ bytes =>
      have lengths := congrArg List.length bytes
      simp only [List.length_append] at lengths
      omega
  | measured _ _ bytes =>
      have lengths := congrArg List.length bytes
      simp only [List.length_append] at lengths
      omega

theorem write_room (stored : List UInt8) (room : stored.length < 1023) (byte : UInt8) :
    uart0RxWrite stored byte = stored ++ [byte] := by
  have free : ¬ stored.length + 1 = uart0RxBufferSize := by
    unfold uart0RxBufferSize
    omega
  simp only [uart0RxWrite, if_neg free]

section Run

variable {json : CJson} {name : List UInt8} {log : List U2artEffect} {calls : Nat}

theorem decoding_write {byte : UInt8}
    (decoding : Decoding processor frame json name log calls state (byte :: pending)) :
    Decoding processor frame json name log calls
      { state with rxBuffer := uart0RxWrite state.rxBuffer byte } pending := by
  have total := frame.bytes_length_le
  have parts := frame.bytes_length
  cases decoding with
  | waiting waiting bytes logged =>
      have lengths := congrArg List.length bytes
      rw [List.length_append, List.length_cons] at lengths
      rw [write_room _ (by omega)]
      refine .waiting ⟨waiting.data, waiting.quiet, waiting.unread, waiting.counter⟩ ?_ logged
      rw [List.append_assoc]
      exact bytes
  | reading reading quiet counter logged =>
      have lengths := reading_length reading
      rw [List.length_cons] at lengths
      rw [write_room _ (by omega)]
      refine .reading ?_ quiet counter logged
      cases reading with
      | opened data unread bytes => exact .opened data unread ((List.append_assoc ..).trans bytes)
      | measured data read bytes => exact .measured data read ((List.append_assoc ..).trans bytes)
  | done _ _ complete => cases complete

theorem decoding_pending_le
    (decoding : Decoding processor frame json name log calls state pending) :
    pending.length ≤ frame.bytes.length := by
  have parts := frame.bytes_length
  cases decoding with
  | waiting _ bytes _ =>
      have lengths := congrArg List.length bytes
      rw [List.length_append] at lengths
      omega
  | reading reading _ _ _ =>
      have lengths := reading_length reading
      omega
  | done _ _ complete =>
      rw [complete]
      exact Nat.zero_le _

variable (parses : processor.cJSONParse frame.payload = some json) (array : json.isArray = true)
variable (first : json.items[0]? = some (some name))
include parses array first

/-- The parser goes on with a frame whose header it has. -/
theorem decoding_frame (answer : CmdAnswer) (reading : Reading frame state pending)
    (quiet : state.result = .null) (logged : state.log = log)
    (counter : pending ≠ [] → state.timeroutCouter < calls ∧ calls ≤ timeroutTime) :
    ∃ next, (takeFrame processor answer state).map checkTimerout = some next ∧
      Decoding processor frame json name log calls next pending ∧
      (pending = [] → Decoded processor frame json name log next ∧ next.rxBuffer = []) := by
  by_cases complete : pending = []
  · subst complete
    let taken : U2art (List UInt8) := { state with
      rxBuffer := []
      data := .zero
      result := .null
      getLength := false
      log := state.log ++ decodeEffects processor answer frame.payload json name }
    have done : takeFrame processor answer state = some taken :=
      take_frame_done parses array first reading quiet
    obtain ⟨count, early, timed⟩ := check_timerout_idle taken rfl rfl
    let next : U2art (List UInt8) := { taken with timeroutCouter := count }
    have decoded : Decoded processor frame json name log next :=
      ⟨⟨rfl, rfl, rfl, early⟩, answer, by rw [← logged]⟩
    rw [done]
    exact ⟨next, congrArg some timed, .done decoded rfl rfl, fun _ => ⟨decoded, rfl⟩⟩
  · obtain ⟨few, calling⟩ := counter complete
    obtain ⟨next, taken, later, quiet', counter', log'⟩ :=
      take_frame_reading processor answer reading quiet complete
    rw [taken]
    refine ⟨next, ?_, .reading later quiet' (counter' ▸ few) (log'.trans logged),
      fun missing => absurd missing complete⟩
    rw [Option.map_some, check_timerout_early (by omega)]

omit parses array first in
/-- A call finds no preamble in the few bytes that are there. -/
theorem parse_few (processor : CmdProcessor) (answer : CmdAnswer) (zero : state.data = .zero)
    (quiet : state.result = .null) (few : state.rxBuffer.length < 3) :
    ∃ counter, counter < timeroutTime ∧
      parseU2artData processor answer state = some { state with timeroutCouter := counter } := by
  have searched : takePreamble (countCall state) = countCall state := by
    rw [takePreamble, find_preamble_few (countCall state) few, ite_self]
  have idle : takeFrame processor answer (countCall state) = some (countCall state) := by
    rw [takeFrame, if_neg]
    rw [show (countCall state).data = .zero from zero]
    exact Bool.false_ne_true
  obtain ⟨count, early, timed⟩ := check_timerout_idle (countCall state) zero quiet
  exact ⟨count, early, by rw [parseU2artData, searched, idle, Option.map_some, timed]; rfl⟩

omit parses array first in
/-- A call that has the header in the buffer. -/
theorem take_preamble_zero {more : List UInt8} (zero : state.data = .zero)
    (stored : state.rxBuffer = 0xAA :: 0x55 :: frame.header :: more) :
    takePreamble (countCall state) = { countCall state with
      rxBuffer := more, timeroutCouter := 0, data := frame.opened } := by
  rw [takePreamble, if_neg]
  · exact find_preamble_frame frame (countCall state) zero stored
  · rw [show (countCall state).data = .zero from zero]
    exact Bool.false_ne_true

/-- A call counts while the frame is incomplete and its header is there. -/
def callWeight (total received : Nat) : Nat :=
  if 3 ≤ received ∧ received < total then 1 else 0

omit parses array first in
theorem call_weight_pending {rest : Nat} (incomplete : pending ≠ [])
    (total : rest + pending.length = frame.bytes.length) (header : 3 ≤ rest) :
    callWeight frame.bytes.length (frame.bytes.length - pending.length) = 1 := by
  have positive := List.length_pos_iff.2 incomplete
  rw [callWeight, if_pos (by omega)]

theorem decoding_parse (answer : CmdAnswer)
    (decoding : Decoding processor frame json name log calls state pending)
    (soon : pending ≠ [] → calls + callWeight frame.bytes.length
      (frame.bytes.length - pending.length) ≤ timeroutTime) :
    ∃ next, parseU2artData processor answer state = some next ∧
      Decoding processor frame json name log
        (calls + callWeight frame.bytes.length (frame.bytes.length - pending.length))
        next pending ∧
      (pending = [] → Decoded processor frame json name log next ∧ next.rxBuffer = []) := by
  have parts := frame.bytes_length
  cases decoding with
  | waiting waiting bytes logged =>
      have lengths := congrArg List.length bytes
      rw [List.length_append] at lengths
      by_cases few : state.rxBuffer.length < 3
      · obtain ⟨count, early, parsed⟩ :=
          parse_few processor answer waiting.data waiting.quiet few
        refine ⟨_, parsed, .waiting ⟨waiting.data, waiting.quiet, waiting.unread, early⟩ bytes
          logged, ?_⟩
        intro complete
        rw [complete, List.length_nil] at lengths
        omega
      · obtain ⟨more, stored, rest⟩ := header_split bytes few
        let opened : U2art (List UInt8) := { countCall state with
          rxBuffer := more, timeroutCouter := 0, data := frame.opened }
        have taken : takePreamble (countCall state) = opened :=
          take_preamble_zero waiting.data stored
        have reading : Reading frame opened pending := .opened rfl waiting.unread rest
        rw [parseU2artData, taken]
        apply decoding_frame parses array first answer reading waiting.quiet logged
        intro incomplete
        have within := soon incomplete
        rw [call_weight_pending incomplete lengths (by omega)] at within ⊢
        exact ⟨Nat.succ_pos calls, within⟩
  | reading reading quiet counter logged =>
      have lengths := reading_length reading
      have counted : Reading frame (countCall state) pending := by
        cases reading with
        | opened data unread bytes => exact .opened data unread bytes
        | measured data read bytes => exact .measured data read bytes
      rw [parseU2artData, takePreamble, if_pos (reading_started counted)]
      apply decoding_frame parses array first answer counted quiet logged
      intro incomplete
      have within := soon incomplete
      have positive := List.length_pos_iff.2 incomplete
      rw [callWeight, if_pos (by omega)] at within ⊢
      refine ⟨?_, within⟩
      unfold timeroutTime at within
      simp only [countCall]
      omega
  | done decoded empty complete =>
      obtain ⟨⟨data, quiet, unread, -⟩, logged⟩ := decoded
      obtain ⟨count, early, parsed⟩ :=
        parse_few processor answer data quiet (by rw [empty]; decide)
      let next : U2art (List UInt8) := { state with timeroutCouter := count }
      have later : Decoded processor frame json name log next :=
        ⟨⟨data, quiet, unread, early⟩, logged⟩
      exact ⟨next, parsed, .done later empty complete, fun _ => ⟨later, empty⟩⟩

/-- The bytes that an event list brings in. -/
def received : List U2artEvent → List UInt8
  | [] => []
  | .uart0RxWrite byte :: events => byte :: received events
  | .parseU2artData _ :: events => received events

/-- The calls made while the preamble is in and the frame is not complete. -/
def callsWithin (total : Nat) : Nat → List U2artEvent → Nat
  | _, [] => 0
  | count, .uart0RxWrite _ :: events => callsWithin total (count + 1) events
  | count, .parseU2artData _ :: events => callWeight total count + callsWithin total count events

theorem decoding_run (events : List U2artEvent)
    (decoding : Decoding processor frame json name log calls state pending)
    (bytes : received events = pending)
    (soon : calls + callsWithin frame.bytes.length (frame.bytes.length - pending.length) events ≤
      timeroutTime) :
    ∃ last calls', execRun (u2artStep processor) state events = some last ∧
      Decoding processor frame json name log calls' last [] := by
  induction events generalizing state pending calls with
  | nil =>
      subst bytes
      exact ⟨state, calls, rfl, decoding⟩
  | cons event events ih =>
      cases event with
      | uart0RxWrite byte =>
          subst bytes
          have inside := decoding_pending_le decoding
          rw [received, List.length_cons] at inside soon
          rw [callsWithin, show frame.bytes.length - ((received events).length + 1) + 1 =
            frame.bytes.length - (received events).length by omega] at soon
          exact ih (decoding_write decoding) rfl soon
      | parseU2artData answer =>
          rw [callsWithin] at soon
          obtain ⟨next, parsed, kept, -⟩ := decoding_parse parses array first answer decoding
            (fun _ => by omega)
          obtain ⟨last, calls', later, ends⟩ := ih kept bytes (by omega)
          exact ⟨last, calls', by rw [execRun, u2artStep, parsed, Option.bind_some, later], ends⟩

/-- A run that brings in the frame and calls the parser once more. -/
theorem decoded_of_run (events : List U2artEvent) (answer : CmdAnswer) (waiting : Waiting state)
    (empty : state.rxBuffer = []) (bytes : received events = frame.bytes)
    (soon : callsWithin frame.bytes.length 0 events ≤ timeroutTime) :
    ∃ final, execRun (u2artStep processor) state (events ++ [.parseU2artData answer]) =
        some final ∧
      Decoded processor frame json name state.log final ∧ final.rxBuffer = [] := by
  have start : Decoding processor frame json name state.log 0 state frame.bytes :=
    .waiting waiting (by rw [empty, List.nil_append]) rfl
  obtain ⟨last, calls, reached, decoding⟩ := decoding_run parses array first events start bytes
    (by rw [Nat.sub_self, Nat.zero_add]; exact soon)
  obtain ⟨final, parsed, -, decoded⟩ := decoding_parse parses array first answer decoding
    (fun missing => absurd rfl missing)
  refine ⟨final, ?_, decoded rfl⟩
  rw [exec_run_append, reached, Option.bind_some, execRun, u2artStep, parsed]
  rfl

end Run

end Pieces

section Encoded

theorem encoded_fits (payload : List UInt8) :
    (if payload.length ≤ 125 then LengthForm.short else .two) = .short →
      payload.length ≤ 125 := by
  intro short
  by_contra long
  rw [if_neg long] at short
  cases short

/-- The frame that `cmdSendDataToMcu` writes. -/
def encodedFrame (crcEnable : Bool) (payload : List UInt8) (nonempty : payload ≠ [])
    (bound : payload.length ≤ 255) (nulFree : (0 : UInt8) ∉ payload) : Frame where
  form := if payload.length ≤ 125 then .short else .two
  cf := crcEnable
  payload := payload
  nonempty := nonempty
  bound := bound
  nulFree := nulFree
  fits := encoded_fits payload

theorem send_data_bytes {crcEnable : Bool} {payload : List UInt8} (nonempty : payload ≠ [])
    (bound : payload.length ≤ 255) (nulFree : (0 : UInt8) ∉ payload) :
    cmdSendDataToMcu crcEnable (some payload) payload.length =
      (encodedFrame crcEnable payload nonempty bound nulFree).bytes := by
  have positive : payload.length ≠ 0 := fun none => nonempty (List.length_eq_zero_iff.1 none)
  have whole : payload.take (sint32 payload.length).toNat = payload := by
    have same : (sint32 payload.length).toNat = payload.length := by
      unfold sint32
      omega
    rw [same, List.take_length]
  have sent : uart0TxBuffer payload payload.length = payload := by
    rw [uart0TxBuffer, Nat.mod_eq_of_lt (by omega), List.take_length]
  simp only [cmdSendDataToMcu, if_neg positive, declaredLength, checksumBytes, whole, sent,
    Frame.bytes, Frame.body, Frame.header, Frame.lengthCode, Frame.extended, Frame.checksum,
    encodedFrame]
  by_cases short : payload.length ≤ 125
  · simp only [if_pos short, List.cons_append, List.nil_append]
    rfl
  · simp only [if_neg short, if_pos (show payload.length ≤ 65535 by omega), List.cons_append,
      List.append_assoc]
    cases crcEnable <;> rfl

/-- A command or the code that answers it. -/
def isReply : U2artEffect → Bool
  | .action _ => true
  | .cmdSendRetToMcu _ => true
  | _ => false

theorem cmd_effects_reply (processor : CmdProcessor) (answer : CmdAnswer) (name : List UInt8) :
    ∀ effect ∈ cmdEffects processor answer name, isReply effect = true := by
  intro effect member
  rcases List.mem_append.1 member with acted | replied
  · unfold cmdOutcome at acted
    split at acted
    · split_ifs at acted
      · rw [List.mem_singleton.1 acted]
        rfl
      · cases acted
    · cases acted
  · rw [Option.mem_toList, Option.map_eq_some_iff] at replied
    obtain ⟨code, -, rfl⟩ := replied
    rfl

/-- What `cmdSendDataToMcu` writes, in any pieces, is handed to the JSON parser once and
run as a command once, and the parser is as it was. -/
theorem frame_decode_undoes_encode (processor : CmdProcessor) (crcEnable : Bool)
    (payload : List UInt8) (json : CJson) (name : List UInt8) (nonempty : payload ≠ [])
    (bound : payload.length ≤ 255) (nulFree : (0 : UInt8) ∉ payload)
    (parses : processor.cJSONParse payload = some json) (array : json.isArray = true)
    (first : json.items[0]? = some (some name)) (state : U2art RxBuffer) (waiting : Waiting state)
    (empty : state.rxBuffer.contents = []) (events : List U2artEvent)
    (bytes : received events = cmdSendDataToMcu crcEnable (some payload) payload.length)
    (soon : callsWithin (received events).length 0 events < timeroutTime) (answer : CmdAnswer) :
    ∃ final effects,
      execRun (u2artStep processor) state (events ++ [.parseU2artData answer]) = some final ∧
        Waiting final ∧ final.rxBuffer.contents = [] ∧
        final.log = state.log ++ .cJSONParse payload :: .processCmd (some json) :: effects ∧
        ∀ effect ∈ effects, isReply effect = true := by
  have written := bytes.trans (send_data_bytes nonempty bound nulFree)
  rw [written] at soon
  have viewed : Waiting (mapState Ring.contents state) :=
    ⟨waiting.data, waiting.quiet, waiting.unread, waiting.counter⟩
  obtain ⟨last, run, decoded, nothing⟩ :=
    decoded_of_run parses array first events answer viewed empty written (Nat.le_of_lt soon)
  rw [u2art_run_map contents_view, Option.map_eq_some_iff] at run
  obtain ⟨final, reached, rfl⟩ := run
  obtain ⟨⟨data, quiet, unread, counter⟩, answer', logged⟩ := decoded
  exact ⟨final, cmdEffects processor answer' name, reached, ⟨data, quiet, unread, counter⟩,
    nothing, logged, cmd_effects_reply processor answer' name⟩

def emptyRing : RxBuffer where
  cells _ := 0
  head := 0
  tail := 0

def pingPayload : List UInt8 :=
  asciiBytes "[\"ping\"]"

def pingProcessor : CmdProcessor where
  cJSONParse text := if text = pingPayload then some ⟨true, [some (asciiBytes "ping")]⟩ else none
  cmd := [⟨asciiBytes "ping", true⟩]

def accepted : CmdAnswer := ⟨.success, U2artError.noConfusion⟩

/-- The frame in two pieces, with two calls between them. -/
def pingEvents : List U2artEvent :=
  let bytes := cmdSendDataToMcu true (some pingPayload) pingPayload.length
  (bytes.take 5).map .uart0RxWrite ++ [.parseU2artData accepted, .parseU2artData accepted] ++
    (bytes.drop 5).map .uart0RxWrite

theorem frame_decode_ping :
    ∃ final effects,
      execRun (u2artStep pingProcessor) (U2art.initial emptyRing)
          (pingEvents ++ [.parseU2artData accepted]) = some final ∧
        Waiting final ∧ final.rxBuffer.contents = [] ∧
        final.log = (U2art.initial emptyRing).log ++ .cJSONParse pingPayload ::
          .processCmd (some ⟨true, [some (asciiBytes "ping")]⟩) :: effects ∧
        ∀ effect ∈ effects, isReply effect = true :=
  frame_decode_undoes_encode pingProcessor true pingPayload ⟨true, [some (asciiBytes "ping")]⟩
    (asciiBytes "ping") (by decide) (by decide) (by decide) rfl rfl rfl (U2art.initial emptyRing)
    ⟨rfl, rfl, rfl, by decide⟩ rfl pingEvents (by decide) (by decide) accepted

end Encoded

end IotgoFirmware.Uart.FrameDecode
